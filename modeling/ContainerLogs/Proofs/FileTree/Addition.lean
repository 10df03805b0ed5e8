import ContainerLogs.Proofs.FileTree.Concealment
import ContainerLogs.Proofs.FileTree.Leads

/-!
Lookups in a tree with one more entry. A lookup that comes to the new name in the directory that has
gained it may end in another way than before; every other lookup goes as it went before.
-/
namespace ContainerLogs

/-- The nodes that a directory speaks of: what its names stand for, and what it stands in. -/
def Node.neighbours (node : Node) : List Nat :=
  match node.kind with
  | .directory entries parent => parent :: entries.map (·.2)
  | _ => []

namespace FileTree

def Has (tree : FileTree) (number : Nat) : Prop := (tree.node? number).isSome

instance (tree : FileTree) (number : Nat) : Decidable (tree.Has number) :=
  inferInstanceAs (Decidable (_ = true))

/-- Directories speak of nodes that are there, and so do lookups when they start. -/
structure Closed (tree : FileTree) : Prop where
  root : tree.Has root
  base : tree.Has tree.base
  spoken : ∀ number node, tree.node? number = some node → ∀ next ∈ node.neighbours, tree.Has next

theorem closed_of_forall {tree : FileTree} (root : tree.Has root) (base : tree.Has tree.base)
    (spoken : ∀ node ∈ tree.nodes, ∀ next ∈ node.neighbours, tree.Has next) : tree.Closed :=
  ⟨root, base, fun _ node found => spoken node (List.mem_of_getElem? found)⟩

/-- On the way of the names from a directory, a name is looked for in some directory. -/
inductive Seeks (tree : FileTree) (directory : Nat) (sought : String) :
    Nat → List String → Prop where
  | here {rest entries parent} (opens : tree.Opens directory entries parent)
      (proper : Proper sought) : Seeks tree directory sought directory (sought :: rest)
  | slash {here rest entries parent owner mode}
      (listed : tree.node? here = some ⟨.directory entries parent, owner, mode⟩)
      (onward : Seeks tree directory sought here rest) :
      Seeks tree directory sought here ("" :: rest)
  | self {here rest entries parent} (opens : tree.Opens here entries parent)
      (onward : Seeks tree directory sought here rest) :
      Seeks tree directory sought here ("." :: rest)
  | up {here rest entries parent} (opens : tree.Opens here entries parent)
      (onward : Seeks tree directory sought parent rest) :
      Seeks tree directory sought here (".." :: rest)
  | followed {here name rest entries parent label next target owner mode}
      (opens : tree.Opens here entries parent) (proper : Proper name)
      (entry : entries.find? (·.1 = name) = some (label, next))
      (link : tree.node? next = some ⟨.symlink target, owner, mode⟩) (nonempty : target ≠ "")
      (onward : Seeks tree directory sought (if isAbsolute target.toList then FileTree.root else here)
        (steps target.toList ++ rest)) :
      Seeks tree directory sought here (name :: rest)
  | down {here name rest entries parent label next} (opens : tree.Opens here entries parent)
      (proper : Proper name) (entry : entries.find? (·.1 = name) = some (label, next))
      (noLink : ¬ tree.IsLink next) (onward : Seeks tree directory sought next rest) :
      Seeks tree directory sought here (name :: rest)

/-- The lookup of a text comes to a name of a directory. -/
def LooksFor (tree : FileTree) (directory : Nat) (sought text : String) : Prop :=
  tree.Seeks directory sought (if isAbsolute text.toList then root else tree.base)
    (steps text.toList)

/-- No link leads to a name of a directory. -/
def Unlinked (tree : FileTree) (directory : Nat) (sought : String) : Prop :=
  ∀ here entries parent, tree.Opens here entries parent → ∀ entry ∈ entries,
    ∀ target owner mode, tree.node? entry.2 = some ⟨.symlink target, owner, mode⟩ →
      ¬ tree.Seeks directory sought (if isAbsolute target.toList then root else here)
        (steps target.toList)

/-- A directory gains an entry under a name that it did not have, and maybe there are new nodes. All
else is as it was. -/
structure Adds (directory : Nat) (added : String × Nat) (before after : FileTree) : Prop where
  base : after.base = before.base
  user : after.user = before.user
  gained : ∃ front back parent owner mode,
    before.node? directory = some ⟨.directory (front ++ back) parent, owner, mode⟩ ∧
    after.node? directory = some ⟨.directory (front ++ added :: back) parent, owner, mode⟩ ∧
    ∀ entry ∈ front ++ back, entry.1 ≠ added.1
  others : ∀ number ≠ directory, ∀ node, before.node? number = some node →
    after.node? number = some node

variable {directory here : Nat} {sought : String} {tree before after : FileTree}
  {added : String × Nat}

namespace Seeks

variable {front back : List String}

/-- What the first of the names come to, all of them come to. -/
private theorem append (seeks : tree.Seeks directory sought here front) (back : List String) :
    tree.Seeks directory sought here (front ++ back) := by
  induction seeks with
  | here opens proper => exact .here opens proper
  | slash listed _ ih => exact .slash listed ih
  | self opens _ ih => exact .self opens ih
  | up opens _ ih => exact .up opens ih
  | followed opens proper entry link nonempty _ ih =>
    rw [List.append_assoc] at ih
    exact .followed opens proper entry link nonempty ih
  | down opens proper entry noLink _ ih => exact .down opens proper entry noLink ih

/-- The name is come to by the first of the names, or from where they lead. -/
private theorem split (seeks : tree.Seeks directory sought here (front ++ back)) :
    tree.Seeks directory sought here front ∨
      ∃ links between, tree.Leads links here front between ∧
        tree.Seeks directory sought between back := by
  generalize whole : front ++ back = names at seeks
  induction seeks generalizing front with
  | here opens proper =>
    rcases List.append_eq_cons_iff.1 whole with ⟨rfl, rfl⟩ | ⟨front, rfl, rfl⟩
    · exact .inr ⟨0, _, .arrived, .here opens proper⟩
    · exact .inl (.here opens proper)
  | slash listed onward ih =>
    rcases List.append_eq_cons_iff.1 whole with ⟨rfl, rfl⟩ | ⟨front, rfl, rfl⟩
    · exact .inr ⟨0, _, .arrived, .slash listed onward⟩
    · rcases ih rfl with early | ⟨links, between, leads, late⟩
      · exact .inl (.slash listed early)
      · exact .inr ⟨links, between, .slash listed leads, late⟩
  | self opens onward ih =>
    rcases List.append_eq_cons_iff.1 whole with ⟨rfl, rfl⟩ | ⟨front, rfl, rfl⟩
    · exact .inr ⟨0, _, .arrived, .self opens onward⟩
    · rcases ih rfl with early | ⟨links, between, leads, late⟩
      · exact .inl (.self opens early)
      · exact .inr ⟨links, between, .self opens leads, late⟩
  | up opens onward ih =>
    rcases List.append_eq_cons_iff.1 whole with ⟨rfl, rfl⟩ | ⟨front, rfl, rfl⟩
    · exact .inr ⟨0, _, .arrived, .up opens onward⟩
    · rcases ih rfl with early | ⟨links, between, leads, late⟩
      · exact .inl (.up opens early)
      · exact .inr ⟨links, between, .up opens leads, late⟩
  | followed opens proper entry link nonempty onward ih =>
    rcases List.append_eq_cons_iff.1 whole with ⟨rfl, rfl⟩ | ⟨front, rfl, rfl⟩
    · exact .inr ⟨0, _, .arrived, .followed opens proper entry link nonempty onward⟩
    · rcases ih (List.append_assoc _ _ _) with early | ⟨links, between, leads, late⟩
      · exact .inl (.followed opens proper entry link nonempty early)
      · exact .inr ⟨links + 1, between, .followed opens proper entry link nonempty leads, late⟩
  | down opens proper entry noLink onward ih =>
    rcases List.append_eq_cons_iff.1 whole with ⟨rfl, rfl⟩ | ⟨front, rfl, rfl⟩
    · exact .inr ⟨0, _, .arrived, .down opens proper entry noLink onward⟩
    · rcases ih rfl with early | ⟨links, between, leads, late⟩
      · exact .inl (.down opens proper entry noLink early)
      · exact .inr ⟨links, between, .down opens proper entry noLink leads, late⟩

private theorem proper_of_single {name : String} (seeks : tree.Seeks directory sought here [name]) :
    Proper name := by
  cases seeks with
  | here _ proper | followed _ proper | down _ proper => exact proper
  | slash _ onward | self _ onward | up _ onward => cases onward

/-- Where no link leads to the name, a single name comes to it only as itself. -/
private theorem of_single (unlinked : tree.Unlinked directory sought) {name : String}
    (seeks : tree.Seeks directory sought here [name]) : here = directory ∧ name = sought := by
  cases seeks with
  | here => exact ⟨rfl, rfl⟩
  | slash _ onward | self _ onward | up _ onward => cases onward
  | down _ _ _ _ onward => cases onward
  | followed opens _ entry link _ onward =>
    rw [List.append_nil] at onward
    exact absurd onward
      (unlinked _ _ _ opens _ (List.mem_of_find?_eq_some entry) _ _ _ link)

/-- Without links, only names that contain the name come to it. -/
theorem mem_of_linkless (linkless : ∀ number, ¬ tree.IsLink number) {names : List String}
    (seeks : tree.Seeks directory sought here names) : sought ∈ names := by
  induction seeks with
  | here => exact List.mem_cons_self
  | slash _ _ ih | self _ _ ih | up _ _ ih | down _ _ _ _ _ ih => exact List.mem_cons_of_mem _ ih
  | followed _ _ _ link => exact absurd ⟨_, _, _, link⟩ (linkless _)

end Seeks

namespace Closed

variable (closed : tree.Closed)
include closed

theorem entry {entries : List (String × Nat)} {parent owner mode : Nat}
    (listed : tree.node? here = some ⟨.directory entries parent, owner, mode⟩)
    {entry : String × Nat} (among : entry ∈ entries) : tree.Has entry.2 :=
  closed.spoken here _ listed _ (List.mem_cons_of_mem _ (List.mem_map_of_mem among))

private theorem parent {entries : List (String × Nat)} {parent owner mode : Nat}
    (listed : tree.node? here = some ⟨.directory entries parent, owner, mode⟩) : tree.Has parent :=
  closed.spoken here _ listed _ List.mem_cons_self

/-- Lookups find nodes that are there. -/
private theorem leads {links number : Nat} {names : List String}
    (leads : tree.Leads links here names number) (there : tree.Has here) : tree.Has number := by
  induction leads with
  | arrived => exact there
  | slash _ _ ih | self _ _ ih => exact ih there
  | up opens _ ih =>
    obtain ⟨owner, mode, listed⟩ := opens.listed
    exact ih (closed.parent listed)
  | followed _ _ _ _ _ _ ih =>
    apply ih
    split
    · exact closed.root
    · exact there
  | down opens _ entry _ _ ih =>
    obtain ⟨owner, mode, listed⟩ := opens.listed
    exact ih (closed.entry listed (List.mem_of_find?_eq_some entry))

theorem resolve {text : String} {number : Nat} (resolved : tree.resolve text = .ok number) :
    tree.Has number := by
  refine closed.leads (resolve_eq_ok_iff.1 resolved).2 ?_
  split
  · exact closed.root
  · exact closed.base

end Closed

/-- The same node, or another directory. -/
def Kin (left right : Node) : Prop :=
  right = left ∨ left.isDirectory = true ∧ right.isDirectory = true

theorem Kin.isFile {left right : Node} (kin : Kin left right) : right.isFile = left.isFile := by
  rcases kin with rfl | ⟨one, other⟩
  · rfl
  · obtain ⟨kind, owner, mode⟩ := left
    obtain ⟨kind', owner', mode'⟩ := right
    cases kind <;> cases one
    cases kind' <;> cases other
    rfl

private theorem Kin.isDirectory {left right : Node} (kin : Kin left right) :
    right.isDirectory = left.isDirectory := by
  rcases kin with rfl | ⟨one, other⟩
  · rfl
  · rw [one, other]

namespace Adds

variable (adds : Adds directory added before after)
include adds

/-- A directory keeps all but its entries, and those too, apart from the new one. -/
theorem listed {entries : List (String × Nat)} {parent owner mode : Nat}
    (found : before.node? here = some ⟨.directory entries parent, owner, mode⟩) :
    ∃ entries', after.node? here = some ⟨.directory entries' parent, owner, mode⟩ ∧
      entries = entries'.filter (fun entry => ¬ (here = directory ∧ entry.1 = added.1)) ∧
      ∀ entry ∈ entries', here = directory → entry.1 = added.1 → entry = added := by
  by_cases same : here = directory
  · subst same
    obtain ⟨front, back, parent', owner', mode', had, gained, fresh⟩ := adds.gained
    rw [had] at found
    cases found
    refine ⟨_, gained, ?_, ?_⟩
    · have kept : ∀ entry ∈ front ++ back, decide (¬ entry.1 = added.1) = true := by simpa using fresh
      obtain ⟨first, last⟩ := List.forall_mem_append.1 kept
      simp only [true_and, List.filter_append, List.filter_eq_self.2 first]
      rw [List.filter_cons_of_neg (by simp), List.filter_eq_self.2 last]
    · intro entry among _ named
      rcases List.mem_append.1 among with early | late
      · exact absurd named (fresh _ (List.mem_append_left _ early))
      · rcases List.mem_cons.1 late with rfl | late
        · rfl
        · exact absurd named (fresh _ (List.mem_append_right _ late))
  · refine ⟨entries, adds.others here same _ found, ?_, fun _ _ here => absurd here same⟩
    exact (List.filter_eq_self.2 fun entry _ => by simp [same]).symm

/-- What is no directory stays as it is. -/
theorem kept {number : Nat} {node : Node} (found : before.node? number = some node)
    (noDirectory : node.isDirectory = false) : after.node? number = some node := by
  refine adds.others number ?_ node found
  rintro rfl
  obtain ⟨_, _, _, _, _, had, -⟩ := adds.gained
  rw [had] at found
  cases found
  cases noDirectory

theorem node {number : Nat} {node : Node} (found : before.node? number = some node) :
    ∃ node', after.node? number = some node' ∧ Kin node node' ∧ node'.owner = node.owner ∧
      node'.mode = node.mode := by
  obtain ⟨kind, owner, mode⟩ := node
  cases kind with
  | directory entries parent =>
    obtain ⟨entries', found', -⟩ := adds.listed found
    exact ⟨_, found', .inr ⟨rfl, rfl⟩, rfl, rfl⟩
  | file | symlink | fifo => exact ⟨_, adds.kept found rfl, .inl rfl, rfl, rfl⟩

private theorem permits {number : Nat} (there : before.Has number) (right : Right) :
    after.permits number right = before.permits number right := by
  obtain ⟨node, found⟩ := Option.isSome_iff_exists.1 there
  obtain ⟨node', found', -, owner, mode⟩ := adds.node found
  simp only [FileTree.permits, found, found', Node.permits, owner, mode, adds.user]

private theorem isLink_iff {number : Nat} (there : before.Has number) :
    after.IsLink number ↔ before.IsLink number := by
  obtain ⟨⟨kind, owner, mode⟩, found⟩ := Option.isSome_iff_exists.1 there
  cases kind with
  | directory entries parent =>
    obtain ⟨entries', found', -⟩ := adds.listed found
    simp [IsLink, found, found']
  | file | symlink | fifo => simp [IsLink, found, adds.kept found rfl]

/-- An entry is found as before, unless it is the new one. -/
private theorem opens {entries : List (String × Nat)} {parent : Nat}
    (opens : before.Opens here entries parent) :
    ∃ entries', after.Opens here entries' parent ∧
      ∀ name, ¬ (here = directory ∧ name = added.1) →
        entries'.find? (·.1 = name) = entries.find? (·.1 = name) := by
  obtain ⟨⟨owner, mode, found⟩, granted⟩ := opens
  obtain ⟨entries', found', rfl, -⟩ := adds.listed found
  have there : before.Has here := Option.isSome_iff_exists.2 ⟨_, found⟩
  refine ⟨entries', ⟨⟨owner, mode, found'⟩, by rw [adds.permits there, granted]⟩, ?_⟩
  intro name other
  rw [List.find?_filter]
  congr 1
  funext entry
  by_cases named : entry.1 = name
  · simp [named, other]
  · simp [named]

section Unsought

variable (closed : before.Closed)
include closed

private theorem walk {onLink onLink' : Nat → List String → Except Errno Place}
    (onward : ∀ here names, before.Has here → ¬ before.Seeks directory added.1 here names →
      onLink' here names = onLink here names)
    {names : List String} (there : before.Has here)
    (unsought : ¬ before.Seeks directory added.1 here names) :
    after.walk onLink' .node here names = before.walk onLink .node here names := by
  -- By induction on the names: whatever the first of them comes to, the rest does not come to the
  -- new name either. What stands behind a link is left to `onward`, since it may be longer.
  induction names generalizing here with
  | nil => rfl
  | cons name rest ih =>
    obtain ⟨⟨kind, owner, mode⟩, found⟩ := Option.isSome_iff_exists.1 there
    cases kind with
    | file | symlink | fifo => simp only [FileTree.walk, found, adds.kept found rfl]
    | directory entries parent =>
      obtain ⟨entries', found', -⟩ := adds.listed found
      by_cases slash : name = ""
      · subst slash
        simp only [FileTree.walk, found, found', if_true]
        exact ih there fun seeks => unsought (.slash found seeks)
      by_cases granted : before.permits here .search = true
      · have opens : before.Opens here entries parent := ⟨⟨owner, mode, found⟩, granted⟩
        have granted' := (adds.permits there .search).trans granted
        by_cases self : name = "."
        · subst self
          have onto := ih there fun seeks => unsought (.self opens seeks)
          simpa [FileTree.walk, found, found', granted, granted'] using onto
        by_cases up : name = ".."
        · subst up
          have onto := ih (closed.parent found) fun seeks => unsought (.up opens seeks)
          simpa [FileTree.walk, found, found', granted, granted'] using onto
        by_cases long : maxNameBytes < name.utf8ByteSize
        · simp [FileTree.walk, found, found', granted, granted', slash, self, up, long]
        have proper : Proper name := ⟨slash, self, up, long⟩
        obtain ⟨entries', opens', same⟩ := adds.opens opens
        have other : ¬ (here = directory ∧ name = added.1) := by
          rintro ⟨rfl, rfl⟩
          exact unsought (.here opens proper)
        rw [walk_proper opens proper, walk_proper opens' proper, same name other]
        cases entry : entries.find? (·.1 = name) with
        | none => rfl
        | some labelled =>
          obtain ⟨label, next⟩ := labelled
          have nextThere : before.Has next :=
            closed.entry found (List.mem_of_find?_eq_some entry)
          by_cases isLink : before.IsLink next
          · obtain ⟨target, owner, mode, link⟩ := isLink
            have link' := adds.kept link rfl
            simp only [link, link']
            by_cases empty : target = ""
            · simp [empty]
            have start : before.Has (if isAbsolute target.toList then root else here) := by
              split
              · exact closed.root
              · exact there
            have onto := onward _ _ start fun seeks =>
              unsought (.followed opens proper entry link empty seeks)
            simp only [follow_node, empty, if_false, onto]
          · have onto := ih nextThere fun seeks => unsought (.down opens proper entry isLink seeks)
            have isLink' := mt (adds.isLink_iff nextThere).1 isLink
            simp only
            split
            · exact absurd ⟨_, _, _, ‹_›⟩ isLink'
            · split
              · exact absurd ⟨_, _, _, ‹_›⟩ isLink
              · exact onto
      · simp [FileTree.walk, found, found', slash, granted, adds.permits there]

/-- A lookup that does not come to the new name ends as before. -/
private theorem walkLinks (links : Nat) {names : List String} (there : before.Has here)
    (unsought : ¬ before.Seeks directory added.1 here names) :
    after.walkLinks .node links here names = before.walkLinks .node links here names := by
  induction links generalizing here names with
  | zero =>
    rw [walkLinks_eq_walk, walkLinks_eq_walk]
    exact adds.walk closed (fun _ _ _ _ => rfl) there unsought
  | succ links ih =>
    rw [walkLinks_eq_walk, walkLinks_eq_walk]
    exact adds.walk closed (fun _ _ there unsought => ih there unsought) there unsought

variable {text : String} (unsought : ¬ before.LooksFor directory added.1 text)
include unsought

private theorem resolve : after.resolve text = before.resolve text := by
  have start : before.Has (if isAbsolute text.toList then root else before.base) := by
    split
    · exact closed.root
    · exact closed.base
  have walked := adds.walkLinks closed maxLinks start unsought
  simp [FileTree.resolve, place, walkWhole, adds.base, walked]

theorem stat : Both Kin (before.stat text) (after.stat text) := by
  unfold FileTree.stat
  rw [adds.resolve closed unsought]
  cases resolved : before.resolve text with
  | error refusal => exact .refused refusal
  | ok number =>
    obtain ⟨node, found⟩ := Option.isSome_iff_exists.1 (closed.resolve resolved)
    obtain ⟨node', found', kin, -⟩ := adds.node found
    simp only [bind, Except.bind, found, found']
    exact .done kin

theorem isDirectory : after.isDirectory text = before.isDirectory text := by
  have stats := adds.stat closed unsought
  unfold FileTree.isDirectory examine
  generalize before.stat text = left, after.stat text = right at stats
  cases stats with
  | refused refusal => rfl
  | done kin => simp only [kin.isDirectory]

theorem openNode : after.openNode text = before.openNode text := by
  unfold FileTree.openNode
  rw [adds.resolve closed unsought]
  cases resolved : before.resolve text with
  | error refusal => rfl
  | ok number => simp only [bind, Except.bind, adds.permits (closed.resolve resolved)]

theorem directoryEntries_error {refusal : Refusal}
    (refused : before.directoryEntries text = .error refusal) :
    after.directoryEntries text = .error refusal := by
  unfold FileTree.directoryEntries at refused ⊢
  rw [adds.resolve closed unsought]
  cases resolved : before.resolve text with
  | error other =>
    rw [resolved] at refused
    exact refused
  | ok number =>
    have there := closed.resolve resolved
    obtain ⟨⟨kind, owner, mode⟩, found⟩ := Option.isSome_iff_exists.1 there
    simp only [resolved, found, bind, Except.bind] at refused ⊢
    cases kind with
    | directory entries parent =>
      obtain ⟨entries', found', -⟩ := adds.listed found
      simp only [found', adds.permits there] at refused ⊢
      split at refused
      · cases refused
      · rename_i denied
        rw [if_neg denied]
        exact refused
    | file | symlink | fifo => simpa only [adds.kept found rfl] using refused

/-- A directory that could be read can be read, and has its entries, and maybe the new one. -/
theorem directoryEntries_ok {entries : List (String × Nat)}
    (read : before.directoryEntries text = .ok entries) :
    ∃ number entries', before.resolve text = .ok number ∧
      after.directoryEntries text = .ok entries' ∧
      entries = entries'.filter (fun entry => ¬ (number = directory ∧ entry.1 = added.1)) ∧
      ∀ entry ∈ entries', number = directory → entry.1 = added.1 → entry = added := by
  unfold FileTree.directoryEntries at read ⊢
  rw [adds.resolve closed unsought]
  cases resolved : before.resolve text with
  | error refusal => simp [resolved, bind, Except.bind] at read
  | ok number =>
    have there := closed.resolve resolved
    simp only [resolved, bind, Except.bind] at read ⊢
    split at read
    · rename_i found
      split at read
      · rename_i granted
        cases read
        obtain ⟨entries', found', same, sole⟩ := adds.listed found
        simp only [found', adds.permits there, granted, if_true]
        exact ⟨number, entries', rfl, rfl, same, sole⟩
      · cases read
    · cases read

end Unsought

end Adds

section Path

variable {path : Path} (plain : path.Plain)
include plain

/-- A path with parts looks for what its parts look for. -/
theorem looksFor_plain_iff (hasParts : path.parts ≠ []) : tree.LooksFor directory sought path.text ↔
    tree.Seeks directory sought (tree.startOf path) path.parts := by
  rw [LooksFor, plain.steps_text hasParts, start_eq plain tree hasParts]

private theorem not_looksFor_of_bare (bare : path.parts = []) :
    ¬ tree.LooksFor directory sought path.text := by
  obtain ⟨anchor, parts⟩ := path
  obtain rfl : parts = [] := bare
  intro seeks
  rcases plain.anchor with rfl | rfl | rfl
  · replace seeks : tree.Seeks directory sought tree.base ["."] := seeks
    exact seeks.proper_of_single.notHere rfl
  · replace seeks : tree.Seeks directory sought root [""] := seeks
    exact seeks.proper_of_single.nonempty rfl
  · replace seeks : tree.Seeks directory sought root [""] := seeks
    exact seeks.proper_of_single.nonempty rfl

/-- What a path looks for, the paths below it look for. -/
theorem LooksFor.below (seeks : tree.LooksFor directory sought path.text) {below : List String}
    (plainBelow : ∀ name ∈ below, Path.PlainPart name) :
    tree.LooksFor directory sought (path.append ⟨"", below⟩).text := by
  rcases eq_or_ne path.parts [] with noParts | hasParts
  · exact absurd seeks (not_looksFor_of_bare plain noParts)
  · have whole : (path.append ⟨"", below⟩).parts ≠ [] := by simp [Path.append_parts, hasParts]
    rw [looksFor_plain_iff plain hasParts] at seeks
    rw [looksFor_plain_iff (plain.append plainBelow) whole, Path.append_parts _ _ rfl]
    exact seeks.append below

/-- Where no link leads to a name, a path in a directory looks for it only if it is the path of that
name, or if the path of the directory does. -/
theorem LooksFor.above (unlinked : tree.Unlinked directory sought) (hasParts : path.parts ≠ [])
    {name : String} (plainName : Path.PlainPart name)
    (seeks : tree.LooksFor directory sought (path.append ⟨"", [name]⟩).text) {number : Nat}
    (resolved : tree.resolve path.text = .ok number) :
    tree.LooksFor directory sought path.text ∨ number = directory ∧ name = sought := by
  have plainBelow : ∀ part ∈ [name], Path.PlainPart part := List.forall_mem_singleton.2 plainName
  have whole : (path.append ⟨"", [name]⟩).parts ≠ [] := by simp [Path.append_parts]
  rw [looksFor_plain_iff (plain.append plainBelow) whole, Path.append_parts _ _ rfl] at seeks
  rw [looksFor_plain_iff plain hasParts]
  rcases seeks.split with early | ⟨links, between, leads, late⟩
  · exact .inl early
  · right
    obtain rfl := leads.unique ((resolve_plain_iff plain hasParts).1 resolved).2
    exact late.of_single unlinked

end Path

end FileTree

end ContainerLogs
