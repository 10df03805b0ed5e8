import ContainerLogs.Proofs.FileTree.Naming
import ContainerLogs.Proofs.Settings.Store

/-!
Saving settings changes the file at its path and nothing else, or nothing at all. That takes a free
name for the temporary file: what stands there already is overwritten, moved or removed with it.
-/
namespace ContainerLogs.Settings

open FileTree (Keeps Lost Names)
open Running (bind_of_ok bind_of_error tryCatch_of_ok tryCatch_of_error)

variable {surroundings : Surroundings} {table : Table} {given : Option Path} {path temporary : Path}
  {before existing ready between after : FileTree}

private theorem plain_ownPath (surroundings : Surroundings) : (ownPath surroundings).Plain := by
  have named {name : String} (plain : Path.PlainPart name) (other : name ≠ ".") {front : Path}
      (whole : front.Plain) : (front.child name).Plain := by
    rw [Path.child, Path.ofText_single plain other]
    exact whole.append (by simpa using plain)
  exact named (by decide) (by decide) (named (by decide) (by decide) (Path.plain_ofText _))

/-- To choose where settings are saved adds at most the directory of the default file. -/
private theorem chosen_of_pathOr {text : Option String}
    (chosen : pathOr surroundings (text.map Path.ofText) before = .ok path existing) :
    path.Plain ∧ Keeps .none before existing := by
  cases text with
  | some text =>
    cases chosen
    exact ⟨Path.plain_ofText text, .refl _ _⟩
  | none =>
    simp only [Option.map_none, pathOr, defaultPath] at chosen
    cases named : surroundings.environment.get? pathVariable with
    | some text =>
      rw [named] at chosen
      cases chosen
      exact ⟨Path.plain_ofText text, .refl _ _⟩
    | none =>
      rw [named] at chosen
      obtain ⟨_, between, made, chosen⟩ := Running.ok_of_bind chosen
      cases chosen
      have keeps := before.makeDirectories_keeps surroundings.process (ownDirectory surroundings)
        directoryMode
      unfold makeDirectories at made
      split at made
      · rename_i same
        cases made
        rw [same] at keeps
        exact ⟨plain_ownPath surroundings, keeps⟩
      · cases made

section Steps

variable
  (chosen : pathOr surroundings given before = .ok path existing)
  (made : existing.makeDirectories surroundings.process path.parent directoryMode = (ready, none))
  (named : path.withExtension? ".tmp" = some temporary)
include chosen made named

/-- Once the new file is in its place, it is closed to others. -/
private theorem save_of_replaced
    (replaced : replaceFile surroundings temporary path (Toml.write table) ready =
      .ok () between)
    (closed : between.changeMode path.text fileMode = .ok after) :
    save surroundings table given before = .ok path after := by
  have directories : makeDirectories surroundings.process path.parent directoryMode existing =
      .ok () ready := by
    simp [makeDirectories, made]
  have last : act .refused (·.changeMode path.text fileMode) between = .ok () after := by
    simp [act, closed]
  unfold save
  refine (bind_of_ok chosen _).trans ?_
  refine (bind_of_ok directories _).trans ?_
  rw [named]
  refine (bind_of_ok (tryCatch_of_ok replaced _) _).trans ?_
  exact bind_of_ok last _

/-- When the new file cannot be written, the temporary one is removed and the fault is told. -/
private theorem save_of_notWritten {text : String} {refusal : Refusal}
    (failed : replaceFile surroundings temporary path (Toml.write table) ready =
      .error (.notWritten text refusal) between)
    (removed : between.removeFileIfPresent temporary.text = .ok after) :
    save surroundings table given before = .error (.notWritten text refusal) after := by
  have directories : makeDirectories surroundings.process path.parent directoryMode existing =
      .ok () ready := by
    simp [makeDirectories, made]
  have cleared : act .refused (·.removeFileIfPresent temporary.text) between = .ok () after := by
    simp [act, removed]
  unfold save
  refine (bind_of_ok chosen _).trans ?_
  refine (bind_of_ok directories _).trans ?_
  rw [named]
  refine bind_of_error ((tryCatch_of_error failed _).trans ?_) _
  exact bind_of_ok cleared _

end Steps

/-- A temporary file was made under a free name and filled. -/
structure Drafted (before after : FileTree) (temporary : Path) (directory : Nat) (name : String)
    (file : Nat) (content : Bytes) : Prop where
  keeps : Keeps .none before after
  names : after.Names temporary directory name
  granted : after.permits directory .write = true
  listed : ∃ entries parent owner mode label,
    after.node? directory = some ⟨.directory entries parent, owner, mode⟩ ∧
    entries.find? (·.1 = name) = some (label, file)
  held : ∃ mode, after.node? file = some ⟨.file content, after.user, mode⟩
  new : before.node? file = none
  free : ∀ entries parent owner mode,
    before.node? directory = some ⟨.directory entries parent, owner, mode⟩ →
    entries.find? (·.1 = name) = none

section Drafting

variable {directory : Nat} {name : String} {entries : List (String × Nat)} {parent owner mode : Nat}
  (plain : temporary.Plain) (names : ready.Names temporary directory name)
  (listed : ready.node? directory = some ⟨.directory entries parent, owner, mode⟩)
  (free : entries.find? (·.1 = name) = none)
include names listed free

/-- Whatever a new file under the name was filled with. -/
private theorem drafted_of_granted (granted : ready.permits directory .write = true) {bits : Nat}
    {drafted : FileTree} {content : Bytes}
    (filled : Filled (ready.created directory name ⟨.file [], ready.user, bits⟩) ready.nodes.length
      content drafted) :
    Drafted ready drafted temporary directory name ready.nodes.length content := by
  have new : ready.node? ready.nodes.length = none := by simp [FileTree.node?]
  have other : ready.nodes.length ≠ directory :=
    Nat.ne_of_gt (FileTree.lt_length_of_node? listed)
  have empty : (ready.created directory name ⟨.file [], ready.user, bits⟩).node?
      ready.nodes.length = some ⟨.file [], ready.user, bits⟩ := by
    rw [FileTree.node?_created_ne other, if_pos rfl]
  obtain ⟨same, old, user, _, mode', before, held⟩ := filled
  cases empty.symm.trans before
  have keeps : Keeps .none ready drafted := by
    have noLink (target : String) : NodeKind.file [] ≠ .symlink target := by simp
    refine (Keeps.created ready directory name noLink).change_new new same ?_
    rintro ⟨target, owner, mode, link⟩
    rw [held] at link
    cases link
  refine ⟨keeps, keeps.names names fun _ _ _ _ given => given.elim, ?_, ?_, ?_, new, ?_⟩
  · rw [keeps.permits (names.opens_of_listed listed), granted]
  · refine ⟨entries ++ [(name, ready.nodes.length)], parent, owner, mode, name, ?_, ?_⟩
    · rw [same.node?_eq directory (Ne.symm other), FileTree.node?_created_directory listed]
    · rw [List.find?_append, free]
      simp
  · rw [held, keeps.user]
    exact ⟨_, rfl⟩
  · intro entries' parent' owner' mode' listed'
    rw [listed] at listed'
    cases listed'
    exact free

include plain

/-- Making the temporary file is refused to those who may not write in its directory. -/
private theorem replaceFile_of_denied (path : Path) (surroundings : Surroundings)
    (written : Toml.Written) (denied : ready.permits directory .write = false) :
    replaceFile surroundings temporary path written ready =
      .error (.notWritten path.text (.onPath .accessDenied temporary.text)) ready := by
  have refused := FileTree.openForWriting_of_free plain names listed free surroundings.process 0o666
  rw [denied] at refused
  unfold replaceFile
  refine bind_of_error ?_ _
  simp only [openTemporary, refused]
  rfl

/-- The temporary file is made, and moved once it is filled; or a failure to fill it is told. -/
private theorem replaceFile_of_granted (path : Path) (surroundings : Surroundings)
    {written : Toml.Written} (complete : written.isComplete = true)
    (granted : ready.permits directory .write = true) :
    ∃ drafted file content, Drafted ready drafted temporary directory name file content ∧
      ((content = Text.Utf8.encode written.text ∧
          replaceFile surroundings temporary path written ready =
            act (writingFault path.text) (·.rename temporary.text path.text) drafted) ∨
        ∃ refusal, replaceFile surroundings temporary path written ready =
          .error (.notWritten path.text refusal) drafted) := by
  let made := ready.created directory name
    ⟨.file [], ready.user, surroundings.process.granted 0o666⟩
  have regular : (made.node? ready.nodes.length).any Node.isFile = true := by
    have other : ready.nodes.length ≠ directory :=
      Nat.ne_of_gt (FileTree.lt_length_of_node? listed)
    rw [FileTree.node?_created_ne other, if_pos rfl]
    rfl
  have opened := FileTree.openForWriting_of_free plain names listed free surroundings.process 0o666
  rw [if_pos granted] at opened
  have opens : openTemporary surroundings (writingFault path.text) temporary ready =
      .ok ready.nodes.length made := by
    simp only [openTemporary, opened]
    rw [if_pos regular]
  obtain ⟨content, drafted, filled, ended⟩ := fill_cases surroundings (writingFault path.text)
    regular (Text.Utf8.encode written.text)
  refine ⟨drafted, _, content, drafted_of_granted names listed free granted filled, ?_⟩
  rcases ended with ⟨whole, done⟩ | ⟨refusal, counts, failed⟩
  · left
    refine ⟨whole, (bind_of_ok opens _).trans ?_⟩
    refine (bind_of_ok done _).trans ?_
    rw [if_pos complete]
  · right
    refine ⟨refusal, (bind_of_ok opens _).trans ?_⟩
    rw [show StoreFault.notWritten path.text refusal = writingFault path.text refusal from
      (if_neg counts).symm]
    exact bind_of_error failed _

end Drafting

/-- The way is clear for a temporary file beside a path: its name can be spoken of and is free, no
null character stands in the path, and what leads to its directory does not look for the very name
that is to be replaced. -/
structure Clear (tree : FileTree) (path temporary : Path) (directory : Nat) : Prop where
  named : path.withExtension? ".tmp" = some temporary
  free : ∃ name, tree.entry temporary.text .isDirectory [temporary.text] =
    .ok ⟨directory, name, none, false⟩
  valid : '\x00' ∉ path.text.toList
  straight : ¬ tree.Seeks directory path.name (tree.startOf path) path.parent.parts

/-- The path is that of a regular file with a content, which nobody else may read or write. -/
def Stored (tree : FileTree) (path : Path) (content : Bytes) : Prop :=
  tree.stat path.text .link = .ok ⟨.file content, tree.user, fileMode⟩

/-- A temporary path has a free name in the directory of a path. -/
structure Beside (tree : FileTree) (path temporary : Path) (directory : Nat) (name : String) : Prop
    where
  plain : path.Plain
  plain' : temporary.Plain
  shared : ∃ front, path.parts = front ++ [path.name] ∧ temporary.parts = front ++ [name]
  anchor : temporary.anchor = path.anchor
  names : tree.Names temporary directory name
  free : ∃ entries parent owner mode,
    tree.node? directory = some ⟨.directory entries parent, owner, mode⟩ ∧
    entries.find? (·.1 = name) = none

private theorem Clear.beside {directory : Nat} (clear : Clear ready path temporary directory)
    (plain : path.Plain) :
    ∃ name, Beside ready path temporary directory name := by
  obtain ⟨named, ⟨name, said⟩, -, -⟩ := clear
  have plain' := plain.withExtension? (by decide) named
  obtain ⟨front, last, parts, same⟩ := Path.split_of_withExtension? named
  have parts' : temporary.parts = front ++ [name] := by
    have spoken := FileTree.speaks_of_entry plain' (by rw [same]) said
    rw [same]
    exact congrArg (front ++ [·]) spoken.named.symm
  have names := FileTree.names_of_entry plain' parts' said
  obtain ⟨entries, parent, owner, mode, listed⟩ := names.listed
  refine ⟨name, plain, plain', ⟨front, ?_, parts'⟩, by rw [same], names, entries, parent, owner,
    mode, listed, ?_⟩
  · simp [Path.name, parts]
  · rw [FileTree.entry_of_names plain' names listed] at said
    simpa using congrArg FileTree.Entry.number? (Except.ok.inj said)

section Placing

variable {drafted renamed tree : FileTree} {directory file : Nat} {name last : String}
  {content : Bytes}

/-- A file of the user's is closed to others under its name. -/
private theorem closed_of_names {entries : List (String × Nat)} {parent owner mode bits : Nat}
    {label : String} (plain : path.Plain) (names : tree.Names path directory last)
    (listed : tree.node? directory = some ⟨.directory entries parent, owner, mode⟩)
    (found : entries.find? (·.1 = last) = some (label, file))
    (held : tree.node? file = some ⟨.file content, tree.user, bits⟩) :
    tree.changeMode path.text fileMode = .ok (tree.setMode file fileMode) ∧
      Stored (tree.setMode file fileMode) path content := by
  have noLink : ¬ tree.IsLink file := by
    rintro ⟨_, _, _, link⟩
    rw [held] at link
    cases link
  have resolved (purpose : FileTree.Purpose) : tree.resolve path.text purpose = .ok file :=
    (FileTree.stat_of_names plain names listed found held noLink purpose).1
  have closed := FileTree.node?_setMode fileMode held
  have only : FileTree.SameBut file tree (tree.setMode file fileMode) := .update tree file _
  have layout := only.layout (by rw [held]; rfl) (by rw [closed]; rfl)
  constructor
  · simp [FileTree.changeMode, resolved, held, bind, Except.bind]
  · simp [Stored, FileTree.stat, layout.resolve_eq, resolved, closed, only.user, bind, Except.bind]

/-- What was drafted can be taken back without a trace. -/
private theorem Drafted.removed (h : Drafted ready drafted temporary directory name file content)
    (plain : temporary.Plain) : ∃ after,
      drafted.removeFileIfPresent temporary.text = .ok after ∧ Keeps .none ready after := by
  obtain ⟨entries, parent, owner, mode, label, listed, found⟩ := h.listed
  obtain ⟨bits, held⟩ := h.held
  refine ⟨_, FileTree.removeFileIfPresent_of_names plain h.names listed found held rfl h.granted, ?_⟩
  have kept := (h.keeps.of_none (.only directory name)).trans (.unlinked drafted directory name)
  refine kept.weaken ?_
  rintro _ _ ⟨rfl, rfl⟩
  exact .inr h.free

/-- What was drafted takes the place of the path. -/
private theorem Drafted.placed (h : Drafted ready drafted temporary directory name file content)
    (beside : Beside ready path temporary directory name)
    (straight : ¬ ready.Seeks directory path.name (ready.startOf path) path.parent.parts)
    (moved : drafted.rename temporary.text path.text = .ok renamed) :
    ∃ after, renamed.changeMode path.text fileMode = .ok after ∧
      Keeps (.only directory path.name) ready after ∧ Stored after path content := by
  obtain ⟨entries, parent, owner, mode, label, listed, found⟩ := h.listed
  obtain ⟨bits, held⟩ := h.held
  obtain ⟨front, parts, parts'⟩ := beside.shared
  obtain ⟨target, kept, entries', parent', owner', mode', label', listed', stands⟩ :=
    FileTree.keeps_of_rename beside.plain' beside.plain parts' parts beside.anchor moved h.names
      listed found held rfl
  have whole : Keeps (.only directory path.name) ready renamed := by
    refine ((h.keeps.of_none _).trans kept).weaken ?_
    rintro _ _ ⟨rfl, rfl | rfl⟩
    · exact .inr h.free
    · exact .inl ⟨rfl, rfl⟩
  -- The path speaks of its name in the directory as the temporary one does, and still does so once
  -- the name stands for the new file, since the way there does not look for it.
  have spoken : ready.Names path directory path.name := by
    obtain ⟨front', parts'', leads⟩ := beside.names.way
    obtain ⟨rfl, -⟩ := List.append_inj' (parts''.symm.trans parts') rfl
    have start : ready.startOf temporary = ready.startOf path := by
      rw [FileTree.startOf, FileTree.startOf, beside.anchor]
    rw [start] at leads
    exact ⟨target.speakable, ⟨_, parts, leads⟩, target.proper, beside.names.opens⟩
  have spared : renamed.Names path directory path.name := by
    refine whole.names spoken fun front parts number other given => ?_
    obtain ⟨rfl, rfl⟩ := given
    simpa [Path.parent, parts] using straight
  have held' : renamed.node? file = some ⟨.file content, renamed.user, bits⟩ := by
    rw [kept.user]
    exact kept.node held rfl
  obtain ⟨closed, stored⟩ := closed_of_names beside.plain spared listed' stands held'
  refine ⟨_, closed, ?_, stored⟩
  refine whole.change_new h.new (.update renamed file _) ?_
  rintro ⟨_, _, _, link⟩
  rw [FileTree.node?_setMode fileMode held'] at link
  cases link

end Placing

private theorem isComplete_write_table (settings : Settings) :
    (Toml.write settings.table).isComplete = true :=
  congrArg Toml.Written.isComplete (Toml.write_sections settings.areSections)

section Saving

variable {settings : Settings} {directory : Nat} {name : String}
  (chosen : pathOr surroundings given before = .ok path existing)
  (made : existing.makeDirectories surroundings.process path.parent directoryMode = (ready, none))
  (clear : Clear ready path temporary directory)
  (beside : Beside ready path temporary directory name)
include chosen made clear beside

/-- Whoever may write in the directory saves the settings, unless the temporary file cannot be filled
or moved; then it is removed. -/
private theorem save_of_granted (granted : ready.permits directory .write = true) :
    (∃ after, save surroundings settings.table given before = .ok path after ∧
      Keeps (.only directory path.name) ready after ∧
      Stored after path (Text.Utf8.encode (Toml.write settings.table).text)) ∨
    ∃ fault after, save surroundings settings.table given before = .error fault after ∧
      fault.isConfiguration = true ∧ Keeps .none ready after := by
  obtain ⟨entries, parent, owner, mode, listed, free⟩ := beside.free
  obtain ⟨drafted, file, content, draft, ⟨whole, replaced⟩ | ⟨refusal, failed⟩⟩ :=
    replaceFile_of_granted beside.plain' beside.names listed free path surroundings
      settings.isComplete_write_table granted
  · rw [whole] at draft
    cases moved : drafted.rename temporary.text path.text with
    | ok renamed =>
      left
      obtain ⟨after, closed, keeps, stored⟩ := draft.placed beside clear.straight moved
      have done : replaceFile surroundings temporary path (Toml.write settings.table) ready =
          .ok () renamed := by
        simp [replaced, act, moved]
      exact ⟨after, save_of_replaced chosen made clear.named done closed, keeps, stored⟩
    | error refusal =>
      right
      have counts : refusal ≠ .nullInPath := by
        rintro rfl
        exact FileTree.rename_ne_nullInPath beside.names.speakable.valid clear.valid moved
      have failed : replaceFile surroundings temporary path (Toml.write settings.table) ready =
          .error (.notWritten path.text refusal) drafted := by
        simp [replaced, act, moved, writingFault, counts]
      obtain ⟨after, removed, keeps⟩ := draft.removed beside.plain'
      exact ⟨_, after, save_of_notWritten chosen made clear.named failed removed, rfl, keeps⟩
  · right
    obtain ⟨after, removed, keeps⟩ := draft.removed beside.plain'
    exact ⟨_, after, save_of_notWritten chosen made clear.named failed removed, rfl, keeps⟩

/-- Who may not write in the directory leaves it as it is. -/
private theorem save_of_denied (denied : ready.permits directory .write = false) :
    ∃ fault, save surroundings settings.table given before = .error fault ready ∧
      fault.isConfiguration = true := by
  obtain ⟨entries, parent, owner, mode, listed, free⟩ := beside.free
  have failed := replaceFile_of_denied beside.plain' beside.names listed free path
    surroundings (Toml.write settings.table) denied
  have removed := FileTree.removeFileIfPresent_of_free beside.plain' beside.names listed free
  exact ⟨_, save_of_notWritten chosen made clear.named failed removed, rfl⟩

end Saving

/-- Once the path is chosen, its directory is there and the way is clear, saving settings either puts
them under the path, in a regular file for its owner only, and changes nothing else, or is refused
with a fault of the configuration and changes nothing that was there. -/
theorem save_atomic (surroundings : Surroundings) (settings : Settings) (given : Option String)
    {before existing ready : FileTree} {path temporary : Path} {directory : Nat}
    (chosen : pathOr surroundings (given.map Path.ofText) before = .ok path existing)
    (made : existing.makeDirectories surroundings.process path.parent directoryMode = (ready, none))
    (clear : Clear ready path temporary directory) :
    (∃ after, save surroundings settings.table (given.map Path.ofText) before = .ok path after ∧
      Keeps (.only directory path.name) before after ∧
      Stored after path (Text.Utf8.encode (Toml.write settings.table).text)) ∨
    ∃ fault after, save surroundings settings.table (given.map Path.ofText) before =
        .error fault after ∧
      fault.isConfiguration = true ∧ Keeps .none before after := by
  obtain ⟨plain, choice⟩ := chosen_of_pathOr chosen
  obtain ⟨name, beside⟩ := clear.beside plain
  have directories : Keeps .none before ready := by
    have keeps := existing.makeDirectories_keeps surroundings.process path.parent directoryMode
    rw [made] at keeps
    exact choice.trans keeps
  cases granted : ready.permits directory .write with
  | true =>
    rcases save_of_granted chosen made clear beside granted with
      ⟨after, saved, keeps, stored⟩ | ⟨fault, after, failed, told, keeps⟩
    · exact .inl ⟨after, saved, (directories.of_none _).trans keeps, stored⟩
    · exact .inr ⟨fault, after, failed, told, directories.trans keeps⟩
  | false =>
    obtain ⟨fault, failed, told⟩ := save_of_denied chosen made clear beside granted
    exact .inr ⟨fault, ready, failed, told, directories⟩

/-- A working directory with older settings and a file of the user's. -/
def olderTree : FileTree where
  nodes := [⟨.directory [("c.toml", 1), ("notes", 2)] 0, 0, 0o755⟩, ⟨.file [111], 0, 0o644⟩,
    ⟨.file [110], 0, 0o644⟩]
  base := 0

def faultOf {α : Type} : EStateM.Result StoreFault FileTree α → Option StoreFault
  | .ok .. => none
  | .error fault _ => some fault

def treeOf {α : Type} : EStateM.Result StoreFault FileTree α → FileTree
  | .ok _ tree => tree
  | .error _ tree => tree

/-- The older settings are replaced, and left as they are where there is room for three bytes only. -/
theorem older_settings_replaced : Clear olderTree (Path.ofText "c.toml") ⟨"", ["c.tmp"]⟩ 0 ∧
    (∃ after, save { home := "/" } quotingSettings.table (some (Path.ofText "c.toml")) olderTree =
        .ok (Path.ofText "c.toml") after ∧
      Keeps (.only 0 (Path.ofText "c.toml").name) olderTree after ∧
      Stored after (Path.ofText "c.toml")
        (Text.Utf8.encode (Toml.write quotingSettings.table).text)) ∧
    ∃ after, save { home := "/", room := some 3 } quotingSettings.table (some (Path.ofText "c.toml"))
        olderTree = .error (.notWritten "c.toml" (.bare .noSpace)) after ∧
      Keeps .none olderTree after := by
  have made : olderTree.makeDirectories {} (Path.ofText "c.toml").parent directoryMode =
      (olderTree, none) := by decide +kernel
  have clear : Clear olderTree (Path.ofText "c.toml") ⟨"", ["c.tmp"]⟩ 0 := by
    refine ⟨by decide +kernel, ⟨"c.tmp", rfl⟩, by decide +kernel, ?_⟩
    have bare : (Path.ofText "c.toml").parent.parts = [] := by decide +kernel
    rw [bare]
    rintro ⟨⟩
  have done : isDone (save { home := "/" } quotingSettings.table ((some "c.toml").map Path.ofText)
      olderTree) = true := by
    simp only [save, replaceFile, encode_write]
    decide +kernel
  have full : faultOf (save { home := "/", room := some 3 } quotingSettings.table
      ((some "c.toml").map Path.ofText) olderTree) =
        some (.notWritten "c.toml" (.bare .noSpace)) := by
    simp only [save, replaceFile, encode_write]
    decide +kernel
  refine ⟨clear, ?_, ?_⟩
  · rcases save_atomic { home := "/" } quotingSettings (some "c.toml") rfl made
      clear with stored | ⟨fault, after, failed, -⟩
    · exact stored
    · rw [failed] at done
      cases done
  · rcases save_atomic { home := "/", room := some 3 } quotingSettings (some "c.toml") rfl made
      clear with ⟨after, saved, -⟩ | ⟨fault, after, failed, -, keeps⟩
    · rw [saved] at full
      cases full
    · rw [failed] at full
      cases full
      exact ⟨after, failed, keeps⟩

/-- A directory has the name of the temporary file. -/
def takenTree : FileTree where
  nodes := [⟨.directory [("c.tmp", 1)] 0, 0, 0o755⟩, ⟨.directory [] 0, 0, 0o755⟩]
  base := 0

/-- A file of the user's has the name of the temporary file, and a directory that of the settings. -/
def usedTree : FileTree where
  nodes := [⟨.directory [("c.tmp", 1), ("c.toml", 2)] 0, 0, 0o755⟩, ⟨.file [109], 0, 0o644⟩,
    ⟨.directory [] 0, 0, 0o755⟩]
  base := 0

/-- Where the name of the temporary file is taken, the fault may be none of the configuration, and
what has the name may be lost. -/
theorem taken_name_harmful :
    faultOf (save { home := "/" } quotingSettings.table (some (Path.ofText "c.toml")) takenTree) =
      some (.refused (.onPath .isDirectory "c.tmp")) ∧
    StoreFault.isConfiguration (.refused (.onPath .isDirectory "c.tmp")) = false ∧
    (usedTree.stat "c.tmp").toOption = some ⟨.file [109], 0, 0o644⟩ ∧
    ((treeOf (save { home := "/" } quotingSettings.table (some (Path.ofText "c.toml"))
      usedTree)).stat "c.tmp").toOption = none := by
  simp only [save, replaceFile, encode_write]
  refine ⟨by decide +kernel, rfl, by decide +kernel, by decide +kernel⟩

end ContainerLogs.Settings
