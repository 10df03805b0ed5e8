import ContainerLogs.Proofs.Archive.Output
import ContainerLogs.Proofs.FileTree.Layout
import ContainerLogs.Proofs.FileTree.Renaming
import ContainerLogs.Proofs.Running
import ContainerLogs.Proofs.Settings.Overlay
import ContainerLogs.Proofs.Text.Utf8

/-!
Settings that were saved are loaded again. Saving is done only if the temporary file was written,
took the place of the old one and could be found there; so the path leads to what was written, and
loading finds those settings, with the environment laid over them.
-/
namespace ContainerLogs

open FileTree (SameLayout SameBut)
open Running (bind_of_ok ok_of_bind ok_of_tryCatch)

namespace Settings

variable {saving loading : Surroundings} {table : Table} {path place : Path}
  {before after : FileTree}

private theorem act_eq_ok {fault : Refusal → StoreFault}
    {attempt : FileTree → Except Refusal FileTree} {done : Unit}
    (made : act fault attempt before = .ok done after) :
    attempt before = .ok after := by
  unfold act at made
  split at made
  · rename_i done
    cases made
    exact done
  · cases made

/-- A regular file was given a content, and nothing else was changed. -/
structure Filled (before : FileTree) (file : Nat) (content : Bytes) (after : FileTree) : Prop where
  frame : SameBut file before after
  node : ∃ old owner mode mode', before.node? file = some ⟨.file old, owner, mode⟩ ∧
    after.node? file = some ⟨.file content, owner, mode'⟩

/-- Bytes stored in a file that was emptied are its content. -/
private theorem filled_store {tree : FileTree} {file : Nat}
    (regular : (tree.node? file).any Node.isFile) (bytes : Bytes) :
    Filled tree file bytes ((tree.setContent file []).store file 0 bytes) := by
  obtain ⟨old, owner, mode, node⟩ := FileTree.file_of_any regular
  have emptied := FileTree.node?_setContent [] node
  refine ⟨(FileTree.setContent_sameBut tree file []).trans (FileTree.store_sameBut _ file 0 bytes),
    old, owner, mode, ?_⟩
  unfold FileTree.store
  split
  · rename_i nothing
    obtain rfl : bytes = [] := by simpa using nothing
    exact ⟨_, node, emptied⟩
  · have stored := FileTree.node?_setContent bytes emptied
    rw [FileTree.content_of_node? emptied]
    simpa [FileTree.overwritten, FileTree.resized, Node.content] using ⟨node, _, stored⟩

/-- What is told of filling a file is what is told of the disk that it lies on. -/
private theorem fill_of_writeOut {surroundings : Surroundings} {file : Nat} {bytes : Bytes}
    {refused? : Option Refusal} (fault : Refusal → StoreFault)
    (written : Archive.Disk.writeOut bytes ⟨before.setContent file [],
      { file, room := surroundings.room, closeFails := surroundings.closeFails }⟩ =
        (after, refused?)) :
    fill surroundings fault file bytes before =
      refused?.elim (.ok () after) fun refusal => .error (fault refusal) after := by
  unfold fill
  simp only [written]
  cases refused? <;> rfl

/-- A file is filled with all bytes, or the failure is told, whatever it was filled with by then. -/
theorem fill_cases (surroundings : Surroundings) (fault : Refusal → StoreFault) {file : Nat}
    (regular : (before.node? file).any Node.isFile) (bytes : Bytes) : ∃ content after,
      Filled before file content after ∧
      ((content = bytes ∧ fill surroundings fault file bytes before = .ok () after) ∨
        ∃ refusal, refusal ≠ .nullInPath ∧
          fill surroundings fault file bytes before = .error (fault refusal) after) := by
  let disk : Archive.Disk := ⟨before.setContent file [],
    { file, room := surroundings.room, closeFails := surroundings.closeFails }⟩
  refine ⟨_, _, filled_store regular (disk.fitting bytes), ?_⟩
  have stored := fill_of_writeOut fault (disk.writeOut_eq rfl bytes)
  cases closing : surroundings.closeFails with
  | true =>
    rw [if_pos closing] at stored
    exact .inr ⟨.bare .deviceFault, nofun, stored⟩
  | false =>
    rw [if_neg (by simp [disk, closing])] at stored
    by_cases short : (disk.fitting bytes).length < bytes.length
    · rw [if_pos short] at stored
      exact .inr ⟨.bare .noSpace, nofun, stored⟩
    · rw [if_neg short] at stored
      exact .inl ⟨disk.fitting_eq short, stored⟩

/-- What was done once settings were saved: a temporary file was opened in some tree, filled, moved
to the path, and closed to others. -/
structure Saved (saving : Surroundings) (table : Table) (path temporary : Path)
    (after : FileTree) : Prop where
  named : path.withExtension? ".tmp" = some temporary
  stored : ∃ (start opened filled renamed : FileTree) (file : Nat),
    start.openForWriting saving.process temporary.text 0o666 = .ok (opened, file) ∧
    Filled opened file (Text.Utf8.encode (Toml.write table).text) filled ∧
    filled.rename temporary.text path.text = .ok renamed ∧
    renamed.changeMode path.text fileMode = .ok after

private theorem replaced_of_replaceFile {temporary : Path} {written : Toml.Written} {done : Unit}
    (made : replaceFile saving temporary path written before = .ok done after) :
    ∃ opened filled file,
      before.openForWriting saving.process temporary.text 0o666 = .ok (opened, file) ∧
      Filled opened file (Text.Utf8.encode written.text) filled ∧
      filled.rename temporary.text path.text = .ok after := by
  unfold replaceFile at made
  obtain ⟨file, opened, first, made⟩ := ok_of_bind made
  obtain ⟨_, filled, filling, made⟩ := ok_of_bind made
  unfold openTemporary at first
  split at first
  · rename_i opened' file' openedThere
    split at first
    · rename_i regular
      cases first
      refine ⟨opened, filled, file, openedThere, ?_, ?_⟩
      · obtain ⟨content, after', whole, ⟨rfl, same⟩ | ⟨refusal, -, same⟩⟩ :=
          fill_cases saving (writingFault path.text) regular (Text.Utf8.encode written.text)
        · cases same.symm.trans filling
          exact whole
        · cases same.symm.trans filling
      · split at made
        · exact act_eq_ok made
        · cases made
    · cases first
  · cases first

private theorem saved_of_save (made : save saving table (some path) before = .ok place after) :
    ∃ temporary, Saved saving table path temporary after := by
  unfold save at made
  obtain ⟨path', _, chosen, made⟩ := ok_of_bind made
  cases chosen
  obtain ⟨_, start, -, made⟩ := ok_of_bind made
  cases renamed : path.withExtension? ".tmp" with
  | none =>
    rw [renamed] at made
    cases made
  | some temporary =>
    rw [renamed] at made
    obtain ⟨_, between, replaced, made⟩ := ok_of_bind made
    obtain ⟨_, last, changed, made⟩ := ok_of_bind made
    cases made
    -- Whatever the fault, it is passed on once the temporary file is removed.
    have replaced := ok_of_tryCatch (fun fault state done final handled => by
      split at handled
      · obtain ⟨_, _, -, handled⟩ := ok_of_bind handled
        cases handled
      · cases handled) replaced
    obtain ⟨opened, filled, file, opening, filling, moved⟩ := replaced_of_replaceFile replaced
    exact ⟨temporary, renamed, start, opened, filled, between, file, opening, filling, moved,
      act_eq_ok changed⟩

/-- Where settings were saved, there is a file that holds them and that its owner may read. -/
private theorem exists_saved {path temporary : Path} (plain : path.Plain)
    (saved : Saved saving table path temporary after) : ∃ file,
      after.resolve path.text = .ok file ∧
      after.node? file = some ⟨.file (Text.Utf8.encode (Toml.write table).text), after.user,
        fileMode⟩ := by
  obtain ⟨named, start, opened, whole, renamed, file, opening, filling, moved, changed⟩ := saved
  generalize Text.Utf8.encode (Toml.write table).text = content at filling ⊢
  have plainTemporary := plain.withExtension? (by decide) named
  obtain ⟨front, last, parts, same⟩ := Path.split_of_withExtension? named
  obtain ⟨frame, old, user, mode, mode', node, filled⟩ := filling
  have layout : SameLayout opened whole := frame.layout (by rw [node]; rfl) (by rw [filled]; rfl)
  have found : whole.resolve temporary.text = .ok file := by
    rw [layout.resolve_eq]
    exact FileTree.resolve_of_openForWriting opening
  -- The mode can be set only where the path leads, and by the owner only.
  unfold FileTree.changeMode at changed
  cases resolved : renamed.resolve path.text with
  | error refusal => simp [resolved, bind, Except.bind] at changed
  | ok number =>
    simp only [resolved, bind, Except.bind] at changed
    split at changed
    · rename_i own
      cases changed
      obtain ⟨rfl, node'⟩ := FileTree.resolve_of_rename plainTemporary plain
        (by rw [same]) parts (by rw [same]) filled found moved resolved
      have owner : user = renamed.user := by simpa [node'] using own
      have closed := FileTree.node?_setMode fileMode node'
      have only : SameBut number renamed (renamed.setMode number fileMode) := .update renamed number _
      have layout' : SameLayout renamed (renamed.setMode number fileMode) :=
        only.layout (by rw [node']; rfl) (by rw [closed]; rfl)
      refine ⟨number, ?_, ?_⟩
      · rw [layout'.resolve_eq, resolved]
      · rw [closed, owner]
        rfl
    · cases changed

/-- The settings that the content of a file comes to. -/
def settled (environment : Environment) (path : String) (content : Bytes) :
    Except StoreFault Settings := do
  settle environment (.invalid path) (← parse path content)

/-- Once it is known where settings are looked for, each step of loading them decides alone how it
goes on. -/
theorem load_of_chosen {loading : Surroundings} {path : Option Path} {place : Path}
    (chosen : pathOr loading path before = .ok place after) :
    load loading path before =
      match after.pathExists place.text with
      | .error refusal => .error (.refused refusal) after
      | .ok false => .error (.notFound place.text) after
      | .ok true =>
          match after.contentAt place.text with
          | .error refusal => .error (readingFault place.text refusal) after
          | .ok content =>
              match settled loading.environment place.text content with
              | .ok settings => .ok settings after
              | .error fault => .error fault after := by
  unfold load
  refine (bind_of_ok chosen _).trans ?_
  cases present : after.pathExists place.text with
  | error refusal =>
    have asked : request .refused (·.pathExists place.text) after =
        .error (.refused refusal) after := by
      simp [request, present]
    exact Running.bind_of_error asked _
  | ok there =>
    have asked : request .refused (·.pathExists place.text) after = .ok there after := by
      simp [request, present]
    refine (bind_of_ok asked _).trans ?_
    cases there with
    | false => rfl
    | true =>
      rw [if_pos rfl]
      cases held : after.contentAt place.text with
      | error refusal =>
        have read : request (readingFault place.text) (·.contentAt place.text) after =
            .error (readingFault place.text refusal) after := by
          simp [request, held]
        exact Running.bind_of_error read _
      | ok content =>
        have read : request (readingFault place.text) (·.contentAt place.text) after =
            .ok content after := by
          simp [request, held]
        refine (bind_of_ok read _).trans ?_
        simp only [settled]
        cases parse place.text content with
        | error fault => rfl
        | ok table =>
          simp only [bind, Except.bind]
          cases settle loading.environment (.invalid place.text) table <;> rfl

/-- What a path leads to is read by its owner. -/
private theorem load_of_file {loading : Surroundings} {path : Path} {file : Nat} {content : Bytes}
    (resolved : after.resolve path.text = .ok file)
    (node : after.node? file = some ⟨.file content, after.user, fileMode⟩) :
    load loading (some path) after =
      match settled loading.environment path.text content with
      | .ok settings => .ok settings after
      | .error fault => .error fault after := by
  have present : after.pathExists path.text = .ok true := by
    simp [FileTree.pathExists, FileTree.examine, FileTree.stat, resolved, node, bind, Except.bind]
  have granted : (fileMode / 64).testBit Right.read.bit = true := by decide
  have readable : after.permits file .read = true := by
    simp [FileTree.permits, node, Node.permits, granted]
  have held : after.contentAt path.text = .ok content := by
    simp [FileTree.contentAt, FileTree.openForReading, FileTree.openNode, resolved, readable, node,
      FileTree.content, Node.content, bind, Except.bind]
  have chosen : pathOr loading (some path) after = .ok path after := rfl
  rw [load_of_chosen chosen, present]
  simp only [held]

/-- Saved settings are loaded again, whoever loads them from where, with the variables that are set
in place of their fields; loading fails exactly if the level that the environment names is none. -/
theorem load_of_save {written : Value} {settings : Settings} (checked : check written = .ok settings)
    (saving loading : Surroundings) (text : String) {place : Path} {before after : FileTree}
    (saved : save saving settings.table (some (Path.ofText text)) before = .ok place after) :
    load loading (some (Path.ofText text)) after =
      match overlaid loading.environment settings with
      | some settings => .ok settings after
      | none => .error
          (.invalid (Path.ofText text).text [⟨["logging", "level"], .refused⟩]) after := by
  obtain ⟨temporary, saved⟩ := saved_of_save saved
  obtain ⟨file, resolved, node⟩ := exists_saved (Path.plain_ofText text) saved
  have parsed : parse (Path.ofText text).text (Text.Utf8.encode (Toml.write settings.table).text) =
      .ok settings.table := by
    simp [parse, Text.Utf8.decode?_encode, read_write_table]
  rw [load_of_file resolved node, settled, parsed]
  simp only [bind, Except.bind]
  rw [settle_table (valid_of_check checked)]
  cases overlaid loading.environment settings <;> rfl

/-- The bytes that are written, told from the pieces: to weigh a save character by character, they
need not be packed into a text first. -/
theorem encode_write (table : Table) :
    Text.Utf8.encode (Toml.write table).text =
      Text.Utf8.encodeChars (((Toml.Printer.pieces table).takeWhile Option.isSome).flatMap
        fun piece => piece.getD []) := by
  simp only [Text.Utf8.encode, Toml.write, String.toList_ofList]

/-- Settings whose texts hold quotes, a backslash and a line end. -/
def quotingSettings : Settings where
  aggregation := ⟨["/logs, \"a\""], "archive\\", "line\nend"⟩

def quotingEnvironment : Environment :=
  [("LOGARCHIVE_LOG_ROOTS", " /a , ,/b "), ("LOGARCHIVE_NODE_ID", ""), ("LOGARCHIVE_LOG_LEVEL", "debug")]

def isDone {α : Type} : EStateM.Result StoreFault FileTree α → Bool
  | .ok .. => true
  | .error .. => false

/-- They are saved in an empty tree and loaded with the roots and the level of the environment. -/
theorem quoting_settings_loaded : ∃ place after,
    save { home := "/" } quotingSettings.table (some (Path.ofText "config.toml")) .empty =
      .ok place after ∧
    load { environment := quotingEnvironment, home := "/root" } (some (Path.ofText "config.toml"))
      after = .ok { quotingSettings with
        aggregation := ⟨["/a", "/b"], "archive\\", "line\nend"⟩
        logging := { level := .debug } } after := by
  have checked : check (.table quotingSettings.table) = .ok quotingSettings := rfl
  have laid : overlaid quotingEnvironment quotingSettings = some { quotingSettings with
      aggregation := ⟨["/a", "/b"], "archive\\", "line\nend"⟩
      logging := { level := .debug } } := by decide +kernel
  have done : isDone (save { home := "/" } quotingSettings.table (some (Path.ofText "config.toml"))
      .empty) = true := by
    simp only [save, replaceFile, encode_write]
    decide +kernel
  cases saved : save { home := "/" } quotingSettings.table (some (Path.ofText "config.toml")) .empty with
  | ok place after =>
    have loaded := load_of_save checked { home := "/" }
      { environment := quotingEnvironment, home := "/root" } "config.toml" saved
    rw [laid] at loaded
    exact ⟨place, after, rfl, loaded⟩
  | error fault after =>
    rw [saved] at done
    cases done

end Settings

end ContainerLogs
