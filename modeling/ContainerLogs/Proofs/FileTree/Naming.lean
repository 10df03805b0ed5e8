import ContainerLogs.Proofs.FileTree.Keeping

/-!
Names in directories that may be searched. A path with a last name that can stand in its directory
can be spoken of in every request: a file is made under a free name, a name is moved within its
directory, and the name of a file is removed.
-/
namespace ContainerLogs.FileTree

/-- A path speaks of a name in a directory, whether something stands there or not. -/
structure Names (tree : FileTree) (path : Path) (directory : Nat) (name : String) : Prop where
  speakable : Speakable path.text
  way : ∃ front, path.parts = front ++ [name] ∧
    tree.Leads maxLinks (tree.startOf path) front directory
  proper : Proper name
  opens : ∃ entries parent, tree.Opens directory entries parent

variable {tree after : FileTree} {path : Path} {directory : Nat} {name : String}
  {entries : List (String × Nat)} {parent owner mode : Nat}

private theorem speakable_of_entry {text : String} {unnamed : Errno} {subjects : List String}
    {spoken : Entry} (said : tree.entry text unnamed subjects = .ok spoken) : Speakable text := by
  unfold entry at said
  simp only at said
  split at said
  · cases said
  split at said
  · cases said
  split at said
  · cases said
  rename_i valid nonempty fits
  exact ⟨by simpa using valid, nonempty, fits⟩

/-- Only a null character keeps a request from the file system. -/
private theorem entry_ne_nullInPath {text : String} (valid : '\x00' ∉ text.toList) (unnamed : Errno)
    (subjects : List String) : tree.entry text unnamed subjects ≠ .error .nullInPath := by
  unfold entry
  rw [if_neg (by simpa using valid)]
  simp only
  repeat' split
  all_goals nofun

theorem names_of_entry (plain : path.Plain) {front : List String}
    (parts : path.parts = front ++ [name]) {unnamed : Errno} {subjects : List String}
    {spoken : Entry} (said : tree.entry path.text unnamed subjects = .ok spoken) :
    tree.Names path spoken.directory name := by
  obtain ⟨way, proper, -, entries, parent, opens, -⟩ := speaks_of_entry plain parts said
  exact ⟨speakable_of_entry said, ⟨front, parts, way⟩, proper, entries, parent, opens⟩

namespace Names

variable (names : tree.Names path directory name)
include names

private theorem parts_ne_nil : path.parts ≠ [] := by
  obtain ⟨front, parts, -⟩ := names.way
  simp [parts]

theorem listed : ∃ entries parent owner mode,
    tree.node? directory = some ⟨.directory entries parent, owner, mode⟩ := by
  obtain ⟨entries, parent, opens⟩ := names.opens
  obtain ⟨owner, mode, listed⟩ := opens.listed
  exact ⟨entries, parent, owner, mode, listed⟩

theorem opens_of_listed
    (listed : tree.node? directory = some ⟨.directory entries parent, owner, mode⟩) :
    tree.Opens directory entries parent := by
  obtain ⟨entries', parent', opens⟩ := names.opens
  exact ⟨⟨owner, mode, listed⟩, opens.granted⟩

end Names

/-- A lookup of names goes on where the first of them lead. -/
private theorem Leads.walkLinks_concat {links here : Nat} {front : List String} {purpose : Purpose}
    {place : Place} (leads : tree.Leads links here front directory)
    (last : ∀ links, tree.Way (tree.onLink purpose links) purpose directory [name] place) :
    tree.walkLinks purpose links here (front ++ [name]) = .ok place := by
  rw [walkLinks_eq_walk]
  apply walk_of_way
  induction leads with
  | arrived => exact last _
  | slash listed _ ih => exact .slash listed (ih last)
  | self opens _ ih => exact .self opens (ih last)
  | up opens _ ih => exact .up opens (ih last)
  | followed opens proper entry link nonempty _ ih =>
    refine .followed opens proper entry link (by simp) nonempty ?_
    have onward := walk_of_way (ih last)
    rw [List.append_assoc, ← walkLinks_eq_walk] at onward
    rw [follow, if_neg (by simp)]
    exact onward
  | down opens proper entry noLink _ ih => exact .down opens proper entry noLink (ih last)

section Plain

variable (plain : path.Plain) (names : tree.Names path directory name)
include plain names

private theorem place_of_names (purpose : Purpose) {place : Place}
    (last : ∀ links, tree.Way (tree.onLink purpose links) purpose directory [name] place) :
    tree.place path.text purpose = .ok place := by
  obtain ⟨⟨valid, nonempty, fits⟩, ⟨front, parts, leads⟩, -, -⟩ := names
  have hasParts : path.parts ≠ [] := by simp [parts]
  have walked := leads.walkLinks_concat last
  rw [← parts, startOf] at walked
  have unslashed := plain.getLast?_text hasParts
  unfold FileTree.place walkWhole
  simp only [start_eq plain tree hasParts, plain.steps_text hasParts]
  rw [if_neg (by simpa using valid), if_neg nonempty, if_neg fits, if_neg (by simp [unslashed]),
    startOf, walked]

variable (listed : tree.node? directory = some ⟨.directory entries parent, owner, mode⟩)
include listed

theorem entry_of_names (unnamed : Errno) (subjects : List String) :
    tree.entry path.text unnamed subjects =
      .ok ⟨directory, name, (entries.find? (·.1 = name)).map (·.2), false⟩ := by
  have opens := names.opens_of_listed listed
  have hasParts := names.parts_ne_nil
  have unslashed := plain.getLast?_text hasParts
  obtain ⟨⟨valid, nonempty, fits⟩, ⟨front, parts, leads⟩, proper, -⟩ := names
  have others : (steps path.text.toList).filter (· ≠ "") = front ++ [name] := by
    rw [plain.steps_text hasParts, ← parts, List.filter_eq_self]
    intro part among
    simpa using (plain.parts part among).1
  have walked := walkLinks_eq_taken_iff.2 leads
  unfold entry
  simp only [others, start_eq plain tree hasParts, List.getLast?_append, List.getLast?_singleton,
    Option.some_or, Option.getD_some, List.dropLast_concat, walked, listed]
  rw [if_neg (by simpa using valid), if_neg nonempty, if_neg fits,
    if_neg (by simp [opens.granted]), if_neg (by simp [proper.notHere, proper.notParent]),
    if_neg proper.short]
  simp [unslashed]

/-- A file is made under a free name by whoever may write in the directory. -/
theorem openForWriting_of_free (free : entries.find? (·.1 = name) = none) (process : Process)
    (bits : Nat) : tree.openForWriting process path.text bits =
      if tree.permits directory .write then
        .ok (tree.created directory name ⟨.file [], tree.user, process.granted bits⟩,
          tree.nodes.length)
      else .error (.onPath .accessDenied path.text) := by
  have opens := names.opens_of_listed listed
  have placed := place_of_names plain names .creation fun links =>
    .free opens names.proper free
  unfold openForWriting
  rw [placed]
  by_cases granted : tree.permits directory .write = true
  · simp only [bind, Except.bind, granted]
    rfl
  · simp only [bind, Except.bind, granted]
    rfl

theorem removeFileIfPresent_of_free (free : entries.find? (·.1 = name) = none) :
    tree.removeFileIfPresent path.text = .ok tree := by
  have missing : tree.removeFile path.text = .error (.onPath .noEntry path.text) := by
    unfold removeFile
    rw [entry_of_names plain names listed, free]
    rfl
  simp [removeFileIfPresent, missing, Refusal.onPath, Refusal.errno?]

variable {number : Nat} {node : Node} {label : String}
  (found : entries.find? (·.1 = name) = some (label, number))
  (held : tree.node? number = some node)
include found held

/-- What a name stands for is found under it, unless it is a link. -/
theorem stat_of_names (noLink : ¬ tree.IsLink number) (purpose : Purpose) :
    tree.resolve path.text purpose = .ok number ∧ tree.stat path.text purpose = .ok node := by
  have opens := names.opens_of_listed listed
  have placed := place_of_names plain names purpose fun links =>
    .down opens names.proper found noLink .arrived
  have resolved : tree.resolve path.text purpose = .ok number := by
    simp only [resolve, placed]
  refine ⟨resolved, ?_⟩
  simp only [stat, resolved, bind, Except.bind, held]

/-- The name of a file is removed by whoever may write in the directory. -/
theorem removeFileIfPresent_of_names (noDirectory : node.isDirectory = false)
    (granted : tree.permits directory .write = true) :
    tree.removeFileIfPresent path.text = .ok (tree.unlink directory name) := by
  have removed : tree.removeFile path.text = .ok (tree.unlink directory name) := by
    unfold removeFile
    simp [entry_of_names plain names listed, found, held, noDirectory, granted, bind, Except.bind]
  simp only [removeFileIfPresent, removed]

end Plain

/-- A name is still spoken of, unless the way to its directory looked for a name that is given up. -/
theorem Keeps.names {lost : Lost} (h : Keeps lost tree after) (names : tree.Names path directory name)
    (spared : ∀ front, path.parts = front ++ [name] → ∀ number other, lost number other →
      ¬ tree.Seeks number other (tree.startOf path) front) : after.Names path directory name := by
  obtain ⟨speakable, ⟨front, parts, leads⟩, proper, entries, parent, opens⟩ := names
  have start : after.startOf path = tree.startOf path := by rw [startOf, startOf, h.base]
  obtain ⟨entries', opens', -⟩ := h.opens opens
  refine ⟨speakable, ⟨front, parts, ?_⟩, proper, entries', parent, opens'⟩
  rw [start]
  exact h.leads leads (spared front parts)

section Rename

variable {source target : Path} {front : List String} {old new : String}

/-- A rename never gets as far as a null character if there is none. -/
theorem rename_ne_nullInPath (valid : '\x00' ∉ source.text.toList)
    (valid' : '\x00' ∉ target.text.toList) :
    tree.rename source.text target.text ≠ .error .nullInPath := by
  unfold rename
  cases said : tree.entry source.text .busy [source.text, target.text] with
  | error refusal =>
    rintro ⟨⟩
    exact entry_ne_nullInPath valid _ _ said
  | ok named =>
    cases said' : tree.entry target.text .busy [source.text, target.text] with
    | error refusal =>
      simp only [bind, Except.bind]
      rintro ⟨⟩
      exact entry_ne_nullInPath valid' _ _ said'
    | ok placed =>
      simp only [bind, Except.bind]
      repeat' split
      all_goals nofun

/-- Two names of a directory are given up at most. -/
def Lost.either (directory : Nat) (old new : String) : Lost :=
  fun number name => number = directory ∧ (name = old ∨ name = new)

/-- A name that is moved within its directory is given up, and so is what stood under the new one. -/
private theorem Keeps.moved (tree : FileTree) (directory number : Nat) (old new : String) :
    Keeps (.either directory old new) tree
      (((tree.unlink directory old).unlink directory new).link directory new number) := by
  have first : Keeps (.either directory old new) tree (tree.unlink directory old) :=
    (unlinked tree directory old).mono fun _ _ given => ⟨given.1, .inl given.2⟩
  have second : Keeps (.either directory old new) (tree.unlink directory old)
      ((tree.unlink directory old).unlink directory new) :=
    (unlinked _ directory new).mono fun _ _ given => ⟨given.1, .inr given.2⟩
  exact (first.trans second).trans ((linked _ directory new number).of_none _)

section Granted

variable (plain : source.Plain) (plain' : target.Plain) (parts : source.parts = front ++ [old])
  (parts' : target.parts = front ++ [new]) (anchor : source.anchor = target.anchor)
  (renamed : tree.rename source.text target.text = .ok after)
include plain plain' parts parts' anchor renamed

private theorem names_of_rename : ∃ directory, tree.Names source directory old ∧
    tree.Names target directory new := by
  cases said : tree.entry source.text .busy [source.text, target.text] with
  | error refusal => simp [rename, said, bind, Except.bind] at renamed
  | ok named =>
  cases said' : tree.entry target.text .busy [source.text, target.text] with
  | error refusal => simp [rename, said, said', bind, Except.bind] at renamed
  | ok placed =>
  have start : tree.startOf source = tree.startOf target := by rw [startOf, startOf, anchor]
  have way := (speaks_of_entry plain parts said).way
  have way' := (speaks_of_entry plain' parts' said').way
  rw [start] at way
  have same := way.unique way'
  refine ⟨named.directory, names_of_entry plain parts said, ?_⟩
  rw [same]
  exact names_of_entry plain' parts' said'

/-- A rename within a directory gives up the old name and what stood under the new one, under which
stands by now what stood under the old one. -/
theorem keeps_of_rename {number : Nat} {node : Node} {label : String}
    (names : tree.Names source directory old)
    (listed : tree.node? directory = some ⟨.directory entries parent, owner, mode⟩)
    (found : entries.find? (·.1 = old) = some (label, number))
    (held : tree.node? number = some node) (noDirectory : node.isDirectory = false) :
    tree.Names target directory new ∧ Keeps (.either directory old new) tree after ∧
      ∃ entries' parent' owner' mode' label',
        after.node? directory = some ⟨.directory entries' parent', owner', mode'⟩ ∧
        entries'.find? (·.1 = new) = some (label', number) := by
  obtain ⟨other, names', target'⟩ := names_of_rename plain plain' parts parts' anchor renamed
  have same : other = directory := by
    have said := entry_of_names plain names listed .busy []
    obtain ⟨entries'', parent'', owner'', mode'', listed''⟩ := names'.listed
    have said' := entry_of_names plain names' listed'' .busy []
    exact congrArg Entry.directory (Except.ok.inj (said'.symm.trans said))
  subst same
  have said := entry_of_names plain names listed .busy [source.text, target.text]
  have said' := entry_of_names plain' target' listed .busy [source.text, target.text]
  have irregular : ((tree.node? number).map Node.isDirectory).getD false = false := by
    simp [held, noDirectory]
  obtain ⟨other, there, moved⟩ := moved_of_rename said said'
    (fun other there => by
      simp only [found, Option.map_some, Option.some.injEq] at there
      subst there
      exact irregular) renamed
  simp only [found, Option.map_some, Option.some.injEq] at there
  subst there
  refine ⟨target', ?_⟩
  rcases moved with ⟨taken, rfl⟩ | rfl
  · obtain ⟨⟨label', _⟩, stands, rfl⟩ := Option.map_eq_some_iff.1 taken
    exact ⟨.refl _ _, entries, parent, owner, mode, label', listed, stands⟩
  · refine ⟨Keeps.moved tree _ number old new, ?_⟩
    have renames : Renames tree (((tree.unlink other old).unlink other new).link other new number)
        other new number := renames_moved listed number
    obtain ⟨_, entries', parent', owner', mode', -, listed', ⟨label', stands⟩, -⟩ := renames.entries
    exact ⟨entries', parent', owner', mode', label', listed', stands⟩

end Granted

end Rename

end ContainerLogs.FileTree
