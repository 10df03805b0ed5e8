import ContainerLogs.Proofs.FileTree.Concealment
import ContainerLogs.Proofs.FileTree.Leads

/-!
Where paths lead after a name was moved within its directory. Whatever is found by a lookup
afterwards was found before, or is what the moved name led to; so a path that ends in the new name
leads there, if it leads anywhere.
-/
namespace ContainerLogs.FileTree

/-- The entry of a directory is what a name of it leads to, over the link that it may be. -/
inductive Reaches (tree : FileTree) (directory : Nat) : Nat → Nat → Prop where
  | itself {number} (noLink : ¬ tree.IsLink number) : Reaches tree directory number number
  | link {links entry number target owner mode}
      (link : tree.node? entry = some ⟨.symlink target, owner, mode⟩)
      (leads : tree.Leads links (if isAbsolute target.toList then root else directory)
        (steps target.toList) number) : Reaches tree directory entry number

/-- A name of a directory leads to what its entry reaches. -/
private theorem Leads.reaches {tree : FileTree} {links here number : Nat} {name : String}
    (proper : Proper name) (leads : tree.Leads links here [name] number) :
    ∃ entries parent label next, tree.Opens here entries parent ∧
      entries.find? (·.1 = name) = some (label, next) ∧ tree.Reaches here next number := by
  cases leads with
  | slash => exact absurd rfl proper.nonempty
  | self => exact absurd rfl proper.notHere
  | up => exact absurd rfl proper.notParent
  | followed opens _ entry link _ onward =>
    rw [List.append_nil] at onward
    exact ⟨_, _, _, _, opens, entry, .link link onward⟩
  | down opens _ entry noLink onward =>
    cases onward
    exact ⟨_, _, _, _, opens, entry, .itself noLink⟩

/-- A directory gets an entry under a name and may lose others; nothing else changes. -/
structure Renames (before after : FileTree) (directory : Nat) (name : String) (entry : Nat) :
    Prop where
  base : after.base = before.base
  user : after.user = before.user
  node : ∀ other, other ≠ directory → after.node? other = before.node? other
  entries : ∃ entries entries' parent owner mode,
    before.node? directory = some ⟨.directory entries parent, owner, mode⟩ ∧
    after.node? directory = some ⟨.directory entries' parent, owner, mode⟩ ∧
    (∃ label, entries'.find? (·.1 = name) = some (label, entry)) ∧
    ∀ other found, other ≠ name → entries'.find? (·.1 = other) = some found →
      entries.find? (·.1 = other) = some found

namespace Renames

variable {before after : FileTree} {directory : Nat} {name : String} {entry : Nat}
  (h : Renames before after directory name entry)
include h

/-- What is no directory stays as it is. -/
private theorem node_eq {number : Nat}
    (other : ∀ entries parent owner mode,
      after.node? number ≠ some ⟨.directory entries parent, owner, mode⟩) :
    after.node? number = before.node? number := by
  refine h.node number ?_
  rintro rfl
  obtain ⟨_, _, _, _, _, -, listed, -⟩ := h.entries
  exact other _ _ _ _ listed

private theorem listed {number : Nat} {entries : List (String × Nat)} {parent owner mode : Nat}
    (listed : after.node? number = some ⟨.directory entries parent, owner, mode⟩) :
    ∃ old, before.node? number = some ⟨.directory old parent, owner, mode⟩ ∧
      ∀ other found, entries.find? (·.1 = other) = some found →
        old.find? (·.1 = other) = some found ∨
          number = directory ∧ other = name ∧ found.2 = entry := by
  by_cases here : number = directory
  · subst here
    obtain ⟨old, new, _, _, _, listed', listed'', ⟨label, named⟩, kept⟩ := h.entries
    rw [listed] at listed''
    cases listed''
    refine ⟨old, listed', fun other found among => ?_⟩
    by_cases same : other = name
    · subst same
      rw [named] at among
      cases among
      exact .inr ⟨rfl, rfl, rfl⟩
    · exact .inl (kept other found same among)
  · rw [h.node number here] at listed
    exact ⟨entries, listed, fun other found among => .inl among⟩

private theorem opens {number : Nat} {entries : List (String × Nat)} {parent : Nat}
    (opens : after.Opens number entries parent) :
    ∃ old, before.Opens number old parent ∧
      ∀ other found, entries.find? (·.1 = other) = some found →
        old.find? (·.1 = other) = some found ∨
          number = directory ∧ other = name ∧ found.2 = entry := by
  obtain ⟨⟨owner, mode, listed⟩, granted⟩ := opens
  obtain ⟨old, listed', kept⟩ := h.listed listed
  refine ⟨old, ⟨⟨owner, mode, listed'⟩, ?_⟩, kept⟩
  simpa [permits, listed, listed', Node.permits, h.user] using granted

private theorem link_iff {number : Nat} {target : String} {owner mode : Nat} :
    after.node? number = some ⟨.symlink target, owner, mode⟩ ↔
      before.node? number = some ⟨.symlink target, owner, mode⟩ := by
  constructor
  · intro link
    rwa [h.node_eq (by simp [link])] at link
  · intro link
    rwa [h.node number]
    rintro rfl
    obtain ⟨_, _, _, _, _, listed, -⟩ := h.entries
    rw [link] at listed
    cases listed

private theorem isLink_iff {number : Nat} : after.IsLink number ↔ before.IsLink number :=
  exists_congr fun _ => exists_congr fun _ => exists_congr fun _ => h.link_iff

variable {file : Nat} {content : Bytes} {user mode : Nat}
  (regular : before.node? file = some ⟨.file content, user, mode⟩)
  (reaches : before.Reaches directory entry file)
include regular

private theorem regular_after : after.node? file = some ⟨.file content, user, mode⟩ := by
  rwa [h.node file]
  rintro rfl
  obtain ⟨_, _, _, _, _, listed, -⟩ := h.entries
  rw [regular] at listed
  cases listed

include reaches

/-- Whatever is found afterwards was found before, or is the file that was moved. -/
private theorem leads {links here number : Nat} {names : List String}
    (leads : after.Leads links here names number) :
    (∃ links, before.Leads links here names number) ∨ number = file := by
  -- A way that meets the moved entry ends there: it leads to a file, and no name is looked up in a
  -- file. All other ways met the same entries before.
  induction leads with
  | arrived => exact .inl ⟨0, .arrived⟩
  | slash listed _ ih =>
    obtain ⟨old, listed, -⟩ := h.listed listed
    exact ih.imp_left fun ⟨links, onward⟩ => ⟨links, .slash listed onward⟩
  | self opens _ ih =>
    obtain ⟨old, opens, -⟩ := h.opens opens
    exact ih.imp_left fun ⟨links, onward⟩ => ⟨links, .self opens onward⟩
  | up opens _ ih =>
    obtain ⟨old, opens, -⟩ := h.opens opens
    exact ih.imp_left fun ⟨links, onward⟩ => ⟨links, .up opens onward⟩
  | @followed links here _ rest number _ _ _ _ _ _ _ opens proper found link nonempty _ ih =>
    obtain ⟨old, opens, kept⟩ := h.opens opens
    have link := h.link_iff.1 link
    rcases kept _ _ found with found | ⟨rfl, -, same⟩
    · exact ih.imp_left fun ⟨links, onward⟩ =>
        ⟨links + 1, .followed opens proper found link nonempty onward⟩
    · simp only at same
      subst same
      right
      rcases ih with ⟨links, onward⟩ | rfl
      · cases reaches with
        | itself noLink => exact absurd ⟨_, _, _, link⟩ noLink
        | link link' leads =>
          rw [link] at link'
          cases link'
          obtain ⟨between, front, back⟩ := onward.split
          obtain rfl := front.unique leads
          by_cases last : rest = []
          · subst last
            cases back
            rfl
          · obtain ⟨_, _, _, _, listed⟩ := back.directory_of_ne_nil last
            rw [regular] at listed
            cases listed
      · rfl
  | @down links here _ rest number _ _ _ _ opens proper found noLink onward ih =>
    obtain ⟨old, opens, kept⟩ := h.opens opens
    rcases kept _ _ found with found | ⟨rfl, -, same⟩
    · refine ih.imp_left fun ⟨links, onward⟩ => ⟨links, ?_⟩
      exact .down opens proper found (mt h.isLink_iff.2 noLink) onward
    · simp only at same
      subst same
      right
      cases reaches with
      | link link => exact absurd ⟨_, _, _, h.link_iff.2 link⟩ noLink
      | itself =>
        by_cases last : rest = []
        · subst last
          cases onward
          rfl
        · obtain ⟨_, _, _, _, listed⟩ := onward.directory_of_ne_nil last
          rw [h.regular_after regular] at listed
          cases listed

/-- What the new name leads to is the file that was moved. -/
private theorem eq_of_leads_name {links number : Nat} (proper : Proper name)
    (leads : after.Leads links directory [name] number) : number = file := by
  obtain ⟨entries, parent, label, next, opens, found, reached⟩ := leads.reaches proper
  obtain ⟨old, new, _, _, _, -, listed, ⟨label', named⟩, -⟩ := h.entries
  obtain ⟨owner', mode', listed'⟩ := opens.listed
  rw [listed] at listed'
  cases listed'
  rw [named] at found
  cases found
  cases reached with
  | itself noLink =>
    cases reaches with
    | itself => rfl
    | link link => exact absurd ⟨_, _, _, h.link_iff.2 link⟩ noLink
  | link link onward =>
    cases reaches with
    | itself noLink => exact absurd ⟨_, _, _, h.link_iff.1 link⟩ noLink
    | link link' leads =>
      rw [h.link_iff.1 link] at link'
      cases link'
      rcases h.leads regular (.link (h.link_iff.1 link) leads) onward with ⟨links, onward⟩ | rfl
      · exact onward.unique leads
      · rfl

/-- A path that ends in the new name leads to the file that was moved, if it leads anywhere. -/
private theorem eq_of_leads {links links' start number : Nat} {front : List String}
    (proper : Proper name) (way : before.Leads links start front directory)
    (leads : after.Leads links' start (front ++ [name]) number) : number = file := by
  obtain ⟨between, first, last⟩ := leads.split
  rcases h.leads regular reaches first with ⟨links, first⟩ | rfl
  · obtain rfl := first.unique way
    exact h.eq_of_leads_name regular reaches proper last
  · obtain ⟨_, _, _, _, listed⟩ := last.directory_of_ne_nil (by simp)
    rw [h.regular_after regular] at listed
    cases listed

end Renames

/-- The entry that a plain path speaks of stands in the directory that its other parts lead to. -/
structure Speaks (tree : FileTree) (path : Path) (front : List String) (name : String)
    (entry : Entry) : Prop where
  way : tree.Leads maxLinks (tree.startOf path) front entry.directory
  proper : Proper name
  named : entry.name = name
  found : ∃ entries parent, tree.Opens entry.directory entries parent ∧
    entry.number? = (entries.find? (·.1 = name)).map (·.2)

theorem speaks_of_entry {tree : FileTree} {path : Path} (plain : path.Plain) {front : List String}
    {name : String} (parts : path.parts = front ++ [name]) {unnamed : Errno}
    {subjects : List String} {entry : Entry}
    (spoken : tree.entry path.text unnamed subjects = .ok entry) :
    tree.Speaks path front name entry := by
  have hasParts : path.parts ≠ [] := by simp [parts]
  have names : (steps path.text.toList).filter (· ≠ "") = front ++ [name] := by
    rw [plain.steps_text hasParts, ← parts, List.filter_eq_self]
    intro part among
    simpa using (plain.parts part among).1
  have start := start_eq plain tree hasParts
  unfold FileTree.entry at spoken
  simp only [names, start, List.getLast?_append, List.getLast?_singleton, Option.some_or,
    Option.getD_some, List.dropLast_concat] at spoken
  split at spoken
  · cases spoken
  split at spoken
  · cases spoken
  split at spoken
  · cases spoken
  split at spoken
  · cases spoken
  · cases spoken
  · rename_i directory walked
    split at spoken
    · rename_i entries parent owner mode listed
      split at spoken
      · cases spoken
      split at spoken
      · cases spoken
      split at spoken
      · cases spoken
      · rename_i granted other short
        cases spoken
        obtain ⟨notHere, notParent⟩ := not_or.1 other
        have nonempty : name ≠ "" := (plain.parts name (by simp [parts])).1
        exact ⟨walkLinks_eq_taken_iff.1 walked, ⟨nonempty, notHere, notParent, short⟩, rfl,
          entries, parent, ⟨⟨owner, mode, listed⟩, by simpa using granted⟩, rfl⟩
    · cases spoken

section Rename

variable {before after : FileTree} {source target : String} {named placed : Entry} {number : Nat}

/-- What is no directory is moved, unless the new name was its own before. -/
theorem moved_of_rename (spoken : before.entry source .busy [source, target] = .ok named)
    (spoken' : before.entry target .busy [source, target] = .ok placed)
    (irregular : ∀ number, named.number? = some number →
      ((before.node? number).map Node.isDirectory).getD false = false)
    (renamed : before.rename source target = .ok after) :
    ∃ number, named.number? = some number ∧
      (placed.number? = some number ∧ after = before ∨
        after = before.moved named placed number false) := by
  unfold rename at renamed
  simp only [spoken, spoken', bind, Except.bind] at renamed
  split at renamed
  · cases renamed
  · rename_i number there
    refine ⟨number, there, ?_⟩
    simp only [irregular number there, Bool.false_eq_true, if_false] at renamed
    split at renamed
    · split at renamed
      · cases renamed
        exact .inr rfl
      · cases renamed
    · rename_i other taken
      split at renamed
      · rename_i same
        cases renamed
        exact .inl ⟨by rw [taken, same], rfl⟩
      · split at renamed
        · cases renamed
        · split at renamed
          · cases renamed
          · cases ‹false = true›
          · cases ‹false = true›
          · cases renamed
            exact .inr rfl

private theorem Opens.unique {tree : FileTree} {directory parent parent' : Nat}
    {entries entries' : List (String × Nat)} (opens : tree.Opens directory entries parent)
    (opens' : tree.Opens directory entries' parent') : entries = entries' ∧ parent = parent' := by
  obtain ⟨owner, mode, listed⟩ := opens.listed
  obtain ⟨owner', mode', listed'⟩ := opens'.listed
  rw [listed] at listed'
  cases listed'
  exact ⟨rfl, rfl⟩

theorem node?_setEntries {tree : FileTree} {directory parent owner mode : Nat}
    {entries : List (String × Nat)} (change : List (String × Nat) → List (String × Nat))
    (listed : tree.node? directory = some ⟨.directory entries parent, owner, mode⟩) :
    (tree.setEntries directory change).node? directory =
      some ⟨.directory (change entries) parent, owner, mode⟩ := by
  simp [setEntries, listed]

/-- A name that was moved within its directory has the entry that it had under the old one. -/
theorem renames_moved {tree : FileTree} {directory parent owner mode : Nat}
    {entries : List (String × Nat)} {old new : String}
    (listed : tree.node? directory = some ⟨.directory entries parent, owner, mode⟩) (number : Nat) :
    Renames tree (((tree.unlink directory old).unlink directory new).link directory new number)
      directory new number where
  base := rfl
  user := rfl
  node other ne := by
    simp [link, unlink, setEntries, Ne.symm ne]
  entries := by
    refine ⟨entries, _, parent, owner, mode, listed,
      node?_setEntries _ (node?_setEntries _ (node?_setEntries _ listed)), ⟨new, ?_⟩, ?_⟩
    · have gone : ((entries.filter (·.1 ≠ old)).filter (·.1 ≠ new)).find? (·.1 = new) = none := by
        refine List.find?_eq_none.2 fun entry among => ?_
        simpa using (List.mem_filter.1 among).2
      rw [List.find?_append, gone]
      simp
    · intro other found ne among
      have only : [(new, number)].find? (·.1 = other) = none := by simp [Ne.symm ne]
      rw [List.find?_append, only, Option.or_none] at among
      have named : found.1 = other := by simpa using List.find?_some among
      have kept : other ≠ old := by
        rw [← named]
        simpa using (List.mem_filter.1 (List.mem_filter.1 (List.mem_of_find?_eq_some among)).1).2
      rw [List.find?_filter, List.find?_filter] at among
      rw [← among]
      congr 1
      funext entry
      by_cases same : entry.1 = other
      · simp [same, ne, kept]
      · simp [same]

/-- A rename within a directory. -/
private theorem renames_of_rename {source target : Path} (plain : source.Plain)
    (plain' : target.Plain) {front : List String} {old new : String}
    (parts : source.parts = front ++ [old]) (parts' : target.parts = front ++ [new])
    (anchor : source.anchor = target.anchor) {before after : FileTree} {file user mode : Nat}
    {content : Bytes} (regular : before.node? file = some ⟨.file content, user, mode⟩)
    (resolved : before.resolve source.text = .ok file)
    (renamed : before.rename source.text target.text = .ok after) :
    ∃ directory entry, Proper new ∧ before.Leads maxLinks (before.startOf target) front directory ∧
      Renames before after directory new entry ∧ before.Reaches directory entry file := by
  have start : before.startOf source = before.startOf target := by rw [startOf, startOf, anchor]
  cases spoken : before.entry source.text .busy [source.text, target.text] with
  | error refusal => simp [rename, spoken, bind, Except.bind] at renamed
  | ok named =>
  cases spoken' : before.entry target.text .busy [source.text, target.text] with
  | error refusal => simp [rename, spoken, spoken', bind, Except.bind] at renamed
  | ok placed =>
  obtain ⟨way, proper, name, entries, parent, opens, number⟩ := speaks_of_entry plain parts spoken
  obtain ⟨way', proper', name', entries', parent', opens', number'⟩ :=
    speaks_of_entry plain' parts' spoken'
  rw [start] at way
  have same := way.unique way'
  obtain ⟨-, leads⟩ := (resolve_plain_iff plain (by simp [parts])).1 resolved
  rw [parts, start] at leads
  obtain ⟨between, first, last⟩ := leads.split
  obtain rfl := first.unique way
  obtain ⟨_, _, label, entry, opens'', found, reaches⟩ := last.reaches proper
  obtain ⟨rfl, -⟩ := opens.unique opens''
  rw [found] at number
  have irregular : ((before.node? entry).map Node.isDirectory).getD false = false := by
    cases reaches with
    | itself => simp [regular, Node.isDirectory]
    | link link => simp [link, Node.isDirectory]
  have moved := moved_of_rename spoken spoken'
    (fun other there => by rw [number] at there; cases there; exact irregular) renamed
  obtain ⟨other, there, moved⟩ := moved
  rw [number] at there
  cases there
  rw [same] at reaches
  refine ⟨placed.directory, entry, proper', way', ?_, reaches⟩
  rcases moved with ⟨taken, rfl⟩ | rfl
  · obtain ⟨owner, mode', listed⟩ := opens'.listed
    rw [taken, eq_comm, Option.map_eq_some_iff] at number'
    obtain ⟨⟨label', _⟩, held, rfl⟩ := number'
    exact ⟨rfl, rfl, fun _ _ => rfl, entries', entries', parent', owner, mode', listed, listed,
      ⟨label', held⟩, fun _ _ _ among => among⟩
  · obtain ⟨owner, mode', listed⟩ := opens'.listed
    rw [moved, same, name, name']
    simp only [Bool.false_eq_true, if_false]
    exact renames_moved listed entry

/-- After a rename within a directory, the new path leads to the file that the old one led to, if it
leads anywhere. -/
theorem resolve_of_rename {source target : Path} (plain : source.Plain) (plain' : target.Plain)
    {front : List String} {old new : String} (parts : source.parts = front ++ [old])
    (parts' : target.parts = front ++ [new]) (anchor : source.anchor = target.anchor)
    {before after : FileTree} {file number user mode : Nat} {content : Bytes}
    (regular : before.node? file = some ⟨.file content, user, mode⟩)
    (resolved : before.resolve source.text = .ok file)
    (renamed : before.rename source.text target.text = .ok after)
    (resolved' : after.resolve target.text = .ok number) :
    number = file ∧ after.node? file = some ⟨.file content, user, mode⟩ := by
  obtain ⟨directory, entry, proper, way, renames, reaches⟩ :=
    renames_of_rename plain plain' parts parts' anchor regular resolved renamed
  obtain ⟨-, leads⟩ := (resolve_plain_iff plain' (by simp [parts'])).1 resolved'
  have start : after.startOf target = before.startOf target := by
    rw [startOf, startOf, renames.base]
  rw [parts', start] at leads
  exact ⟨renames.eq_of_leads regular reaches proper way leads, renames.regular_after regular⟩

end Rename

end ContainerLogs.FileTree
