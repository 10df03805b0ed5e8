import ContainerLogs.Proofs.FileTree.Frame
import ContainerLogs.Proofs.FileTree.Way

/-!
What lookups depend on. Where a path leads is decided by directories and links alone, so trees that
differ in files only lead it to the same place; and a file that was opened for writing, made or not,
is what its path leads to from then on.
-/
namespace ContainerLogs.FileTree

/-- Trees that differ in files only. -/
structure SameLayout (left right : FileTree) : Prop where
  base : right.base = left.base
  user : right.user = left.user
  node : ∀ number, right.node? number = left.node? number ∨
    ((left.node? number).any Node.isFile ∧ (right.node? number).any Node.isFile)

theorem file_of_any {node? : Option Node} (h : node?.any Node.isFile) :
    ∃ content owner mode, node? = some ⟨.file content, owner, mode⟩ := by
  obtain ⟨⟨kind, owner, mode⟩, rfl, isFile⟩ := (Option.any_eq_true _ _).1 h
  cases kind with
  | file content => exact ⟨content, owner, mode, rfl⟩
  | directory | symlink | fifo => cases isFile

namespace SameLayout

variable {left right : FileTree} (h : SameLayout left right)
include h

private theorem walk_eq (onLink : Nat → List String → Except Errno Place) (purpose : Purpose)
    (here : Nat) (names : List String) :
    right.walk onLink purpose here names = left.walk onLink purpose here names := by
  induction names generalizing here with
  | nil => rfl
  | cons name rest ih =>
    rcases h.node here with same | ⟨before, after⟩
    · have rights : right.permits here .search = left.permits here .search := by
        simp [permits, same, h.user]
      simp only [walk, same, rights, ih]
      split
      · -- Only what the name leads to is still looked up in different trees.
        rename_i entries parent _ _ _
        cases entries.find? (·.1 = name) with
        | none => rfl
        | some entry =>
          obtain ⟨_, next⟩ := entry
          rcases h.node next with same | ⟨before, after⟩
          · simp only [same]
          · obtain ⟨_, _, _, before⟩ := file_of_any before
            obtain ⟨_, _, _, after⟩ := file_of_any after
            simp only [before, after]
      · rfl
    · obtain ⟨_, _, _, before⟩ := file_of_any before
      obtain ⟨_, _, _, after⟩ := file_of_any after
      simp only [walk, before, after]

theorem walkLinks_eq (purpose : Purpose) (links : Nat) :
    right.walkLinks purpose links = left.walkLinks purpose links := by
  induction links with
  | zero =>
    funext here names
    exact h.walk_eq _ purpose here names
  | succ links ih =>
    funext here names
    simp only [walkLinks, ih]
    exact h.walk_eq _ purpose here names

theorem place_eq (path : String) (purpose : Purpose) :
    right.place path purpose = left.place path purpose := by
  simp only [place, h.walkLinks_eq, h.base]

theorem resolve_eq (path : String) (purpose : Purpose) :
    right.resolve path purpose = left.resolve path purpose := by
  simp only [resolve, h.place_eq]

end SameLayout

theorem SameBut.layout {before after : FileTree} {number : Nat} (same : SameBut number before after)
    (here : (before.node? number).any Node.isFile) (there : (after.node? number).any Node.isFile) :
    SameLayout before after where
  base := same.base
  user := same.user
  node other := by
    by_cases own : other = number
    · exact .inr (own ▸ ⟨here, there⟩)
    · exact .inl (same.node?_eq other own)

/-- A tree with more entries, and otherwise with the directories and links of an earlier one. -/
structure Extends (before after : FileTree) : Prop where
  base : after.base = before.base
  user : after.user = before.user
  directory : ∀ {number entries parent owner mode},
    before.node? number = some ⟨.directory entries parent, owner, mode⟩ →
    ∃ more, after.node? number = some ⟨.directory (entries ++ more) parent, owner, mode⟩
  symlink : ∀ {number target owner mode},
    after.node? number = some ⟨.symlink target, owner, mode⟩ ↔
      before.node? number = some ⟨.symlink target, owner, mode⟩

theorem Extends.refl (tree : FileTree) : Extends tree tree :=
  ⟨rfl, rfl, fun found => ⟨[], by simpa using found⟩, Iff.rfl⟩

/-- A place holds a node: the node it was taken by, or one that its name leads to by now. -/
def Found (tree : FileTree) (number : Nat) : Place → Prop
  | .taken other => other = number
  | .free directory name => ∃ entries parent owner mode label,
      tree.node? directory = some ⟨.directory entries parent, owner, mode⟩ ∧
      entries.find? (·.1 = name) = some (label, number) ∧ ¬ tree.IsLink number

/-- No file is made under a name with a slash after it, so a path that one can be made at reads the
same way when it is looked up. -/
private theorem walkWhole_found {after : FileTree} {number : Nat}
    {onCreation onNode : Nat → List String → Except Errno Place}
    (linked : ∀ {start names place}, onCreation start names = .ok place →
      after.Found number place → onNode start names = .ok (.taken number))
    {start : Nat} {text : List Char} {place : Place}
    (walked : walkWhole onCreation .creation start text = .ok place)
    (found : after.Found number place) :
    walkWhole onNode .node start text = .ok (.taken number) := by
  unfold walkWhole at walked ⊢
  rw [if_neg (by simp)]
  split at walked
  · split at walked <;> cases walked
  · exact linked walked found

namespace Extends

variable {before after : FileTree} (h : Extends before after)
include h

theorem opens {here parent : Nat} {entries : List (String × Nat)}
    (opens : before.Opens here entries parent) :
    ∃ more, after.Opens here (entries ++ more) parent := by
  obtain ⟨⟨owner, mode, listed⟩, granted⟩ := opens
  obtain ⟨more, listed'⟩ := h.directory listed
  refine ⟨more, ⟨owner, mode, listed'⟩, ?_⟩
  rw [← granted]
  simp [permits, listed, listed', h.user, Node.permits]

theorem isLink_iff {number : Nat} : after.IsLink number ↔ before.IsLink number :=
  exists_congr fun _ => exists_congr fun _ => exists_congr fun _ => h.symlink

private theorem way_found {onCreation onNode : Nat → List String → Except Errno Place}
    {number : Nat} (linked : ∀ {start names place}, onCreation start names = .ok place →
      after.Found number place → onNode start names = .ok (.taken number))
    {here : Nat} {names : List String} {place : Place}
    (way : before.Way onCreation .creation here names place) (found : after.Found number place) :
    after.Way onNode .node here names (.taken number) := by
  induction way with
  | arrived =>
    cases found
    exact .arrived
  | slash listed _ ih =>
    obtain ⟨more, listed⟩ := h.directory listed
    exact .slash listed (ih found)
  | self opens _ ih =>
    obtain ⟨more, opens⟩ := h.opens opens
    exact .self opens (ih found)
  | up opens _ ih =>
    obtain ⟨more, opens⟩ := h.opens opens
    exact .up opens (ih found)
  | free opens proper _ =>
    -- The name was free before, and the node that is there by now is what was looked for.
    obtain ⟨entries, parent, owner, mode, label, listed, named, noLink⟩ := found
    obtain ⟨more, opens⟩ := h.opens opens
    exact .down ⟨⟨owner, mode, listed⟩, opens.granted⟩ proper named noLink .arrived
  | link _ _ _ _ asked => cases asked
  | followed opens proper entry link _ nonempty followed =>
    obtain ⟨more, opens⟩ := h.opens opens
    refine .followed opens proper (by rw [List.find?_append, entry, Option.some_or]) (h.symlink.2 link)
      (by simp) nonempty ?_
    unfold follow at followed ⊢
    simp only at followed ⊢
    split at followed
    · rw [if_pos ‹_›]
      exact walkWhole_found linked followed found
    · rw [if_neg ‹_›]
      exact linked followed found
  | down opens proper entry noLink _ ih =>
    obtain ⟨more, opens⟩ := h.opens opens
    exact .down opens proper (by rw [List.find?_append, entry, Option.some_or]) (mt h.isLink_iff.1 noLink)
      (ih found)

private theorem walk_found {onCreation onNode : Nat → List String → Except Errno Place}
    {number : Nat} (linked : ∀ {start names place}, onCreation start names = .ok place →
      after.Found number place → onNode start names = .ok (.taken number))
    {here : Nat} {names : List String} {place : Place}
    (walked : before.walk onCreation .creation here names = .ok place)
    (found : after.Found number place) : after.walk onNode .node here names = .ok (.taken number) :=
  walk_eq_ok_iff.2 (h.way_found linked (walk_eq_ok_iff.1 walked) found)

private theorem walkLinks_found {number : Nat} (links : Nat) {here : Nat} {names : List String}
    {place : Place} (walked : before.walkLinks .creation links here names = .ok place)
    (found : after.Found number place) :
    after.walkLinks .node links here names = .ok (.taken number) := by
  induction links generalizing here names place with
  | zero => exact h.walk_found (fun refused => by cases refused) walked found
  | succ links ih => exact h.walk_found ih walked found

private theorem resolve_found {number : Nat} {path : String} {place : Place}
    (placed : before.place path .creation = .ok place) (found : after.Found number place) :
    after.resolve path = .ok number := by
  suffices after.place path .node = .ok (.taken number) by simp [resolve, this]
  unfold FileTree.place at placed ⊢
  simp only [h.base] at placed ⊢
  split at placed
  · cases placed
  rw [if_neg ‹_›]
  split at placed
  · cases placed
  rw [if_neg ‹_›]
  split at placed
  · cases placed
  rw [if_neg ‹_›]
  split at placed
  · rename_i walked
    cases placed
    rw [walkWhole_found (h.walkLinks_found maxLinks) walked found]
  · cases placed

end Extends

/-- If a place is free, it is a name that a directory does not have yet. -/
def Vacant (tree : FileTree) : Place → Prop
  | .taken _ => True
  | .free directory name => ∃ entries parent owner mode,
      tree.node? directory = some ⟨.directory entries parent, owner, mode⟩ ∧
      entries.find? (·.1 = name) = none

section Vacant

variable {tree : FileTree} {purpose : Purpose} {place : Place}

private theorem walkWhole_vacant {onLink : Nat → List String → Except Errno Place}
    (linked : ∀ {start names place}, onLink start names = .ok place → tree.Vacant place)
    {start : Nat} {text : List Char} (walked : walkWhole onLink purpose start text = .ok place) :
    tree.Vacant place := by
  unfold walkWhole at walked
  split at walked
  · split at walked <;> cases walked
  · exact linked walked

private theorem way_vacant {onLink : Nat → List String → Except Errno Place}
    (linked : ∀ {start names place}, onLink start names = .ok place → tree.Vacant place)
    {here : Nat} {names : List String} (way : tree.Way onLink purpose here names place) :
    tree.Vacant place := by
  induction way with
  | arrived | link => trivial
  | slash _ _ ih | self _ _ ih | up _ _ ih | down _ _ _ _ _ ih => exact ih
  | free opens _ absent =>
    obtain ⟨owner, mode, listed⟩ := opens.listed
    exact ⟨_, _, owner, mode, listed, absent⟩
  | followed _ _ _ _ _ _ followed =>
    unfold follow at followed
    simp only at followed
    split at followed
    · exact walkWhole_vacant linked followed
    · exact linked followed

private theorem walkLinks_vacant {links : Nat} {here : Nat} {names : List String}
    (walked : tree.walkLinks purpose links here names = .ok place) : tree.Vacant place := by
  induction links generalizing here names place with
  | zero => exact way_vacant (fun refused => by cases refused) (walk_eq_ok_iff.1 walked)
  | succ links ih => exact way_vacant ih (walk_eq_ok_iff.1 walked)

theorem vacant_of_place {path : String} (placed : tree.place path purpose = .ok place) :
    tree.Vacant place := by
  unfold FileTree.place at placed
  simp only at placed
  split at placed
  · cases placed
  split at placed
  · cases placed
  split at placed
  · cases placed
  split at placed
  · rename_i walked
    cases placed
    exact walkWhole_vacant walkLinks_vacant walked
  · cases placed

end Vacant

/-- The tree in which a new node stands under a free name. -/
def created (tree : FileTree) (directory : Nat) (name : String) (node : Node) : FileTree :=
  (tree.allocate node).1.link directory name tree.nodes.length

section Created

variable {tree : FileTree} {directory : Nat} {name : String} {node : Node}

theorem node?_allocate (tree : FileTree) (node : Node) (number : Nat) :
    (tree.allocate node).1.node? number =
      if number = tree.nodes.length then some node else tree.node? number := by
  unfold allocate node?
  rw [List.getElem?_append]
  split
  · rw [if_neg (by omega)]
  · rename_i beyond
    split
    · rename_i first
      simp [first]
    · rw [List.getElem?_eq_none (by simp; omega), List.getElem?_eq_none (by omega)]

theorem lt_length_of_node? {number : Nat} (h : tree.node? number = some node) :
    number < tree.nodes.length :=
  (List.getElem?_eq_some_iff.1 h).1

theorem node?_created_directory {entries : List (String × Nat)} {parent owner mode : Nat}
    (listed : tree.node? directory = some ⟨.directory entries parent, owner, mode⟩) :
    (tree.created directory name node).node? directory =
      some ⟨.directory (entries ++ [(name, tree.nodes.length)]) parent, owner, mode⟩ := by
  have old := Nat.ne_of_lt (lt_length_of_node? listed)
  simp [created, link, setEntries, node?_allocate, old, listed]

theorem node?_created_ne {number : Nat} (other : number ≠ directory) :
    (tree.created directory name node).node? number =
      if number = tree.nodes.length then some node else tree.node? number := by
  rw [created, link, setEntries, node?_update_ne _ _ (Ne.symm other), node?_allocate]

/-- A directory beside a new node is one that was there, or it is the new node. -/
theorem directory_of_created {number parent owner mode : Nat} {entries : List (String × Nat)}
    (free : tree.Vacant (.free directory name))
    (found : (tree.created directory name node).node? number =
      some ⟨.directory entries parent, owner, mode⟩) :
    (∃ entries', tree.node? number = some ⟨.directory entries' parent, owner, mode⟩) ∨
      (number = tree.nodes.length ∧ node = ⟨.directory entries parent, owner, mode⟩) := by
  obtain ⟨entries', parent', owner', mode', listed, -⟩ := free
  by_cases here : number = directory
  · subst here
    rw [node?_created_directory listed] at found
    cases found
    exact .inl ⟨_, listed⟩
  · rw [node?_created_ne here] at found
    split at found
    · rename_i new
      exact .inr ⟨new, Option.some.inj found⟩
    · exact .inl ⟨_, found⟩

theorem node?_created_new (free : tree.Vacant (.free directory name)) :
    (tree.created directory name node).node? tree.nodes.length = some node := by
  obtain ⟨entries, parent, owner, mode, listed, -⟩ := free
  rw [node?_created_ne (Nat.ne_of_gt (lt_length_of_node? listed)), if_pos rfl]

theorem extends_created {content : Bytes} {user mode : Nat} (free : tree.Vacant (.free directory name)) :
    Extends tree (tree.created directory name ⟨.file content, user, mode⟩) := by
  obtain ⟨entries, parent, owner, mode', listed, -⟩ := free
  refine ⟨rfl, rfl, ?_, ?_⟩
  · intro number entries' parent' owner' mode'' listed'
    by_cases here : number = directory
    · subst here
      rw [listed] at listed'
      cases listed'
      exact ⟨_, node?_created_directory listed⟩
    · have old := Nat.ne_of_lt (lt_length_of_node? listed')
      exact ⟨[], by rw [node?_created_ne here, if_neg old, listed', List.append_nil]⟩
  · intro number target owner' mode''
    by_cases here : number = directory
    · subst here
      rw [node?_created_directory listed, listed]
      simp
    · rw [node?_created_ne here]
      split
      · rename_i new
        subst new
        simp [node?]
      · rfl

end Created

/-- There is no directory under a number. -/
def NoDirectory (tree : FileTree) (number : Nat) : Prop :=
  ∀ node, tree.node? number = some node → node.isDirectory = false

section Opening

variable {before after : FileTree} {process : Process} {path : String} {mode number : Nat}

/-- What was opened for writing was there and is no directory, or is a new file under a free name. -/
theorem openForWriting_eq_ok
    (opened : before.openForWriting process path mode = .ok (after, number)) :
    (before.place path .creation = .ok (.taken number) ∧ before.NoDirectory number ∧ after = before) ∨
    ∃ directory name, before.place path .creation = .ok (.free directory name) ∧
      after = before.created directory name ⟨.file [], before.user, process.granted mode⟩ ∧
      number = before.nodes.length := by
  unfold openForWriting at opened
  cases placed : before.place path .creation with
  | error refusal =>
    rw [placed] at opened
    cases opened
  | ok place =>
    rw [placed] at opened
    simp only [bind, Except.bind] at opened
    cases place with
    | taken other =>
      left
      simp only at opened
      split at opened
      · cases opened
      · rename_i noDirectory
        split at opened
        · cases opened
          refine ⟨rfl, fun node found => ?_, rfl⟩
          obtain ⟨kind, owner, mode⟩ := node
          cases kind with
          | directory entries parent => exact absurd found (noDirectory _ _ _ _)
          | file | symlink | fifo => rfl
        · cases opened
    | free directory name =>
      right
      simp only at opened
      split at opened
      · cases opened
      · cases opened
        exact ⟨directory, name, rfl, rfl, rfl⟩

/-- A file that was opened for writing is what its path leads to. -/
theorem resolve_of_openForWriting
    (opened : before.openForWriting process path mode = .ok (after, number)) :
    after.resolve path = .ok number := by
  rcases openForWriting_eq_ok opened with ⟨placed, -, rfl⟩ | ⟨directory, name, placed, rfl, rfl⟩
  · exact (Extends.refl after).resolve_found placed rfl
  · have free := vacant_of_place placed
    refine (extends_created free).resolve_found placed ?_
    obtain ⟨entries, parent, owner, mode', listed, absent⟩ := free
    refine ⟨_, parent, owner, mode', name, node?_created_directory listed, ?_, ?_⟩
    · rw [List.find?_append, absent]
      simp
    · rintro ⟨target, owner', mode'', link⟩
      rw [node?_created_new (vacant_of_place placed)] at link
      cases link

end Opening

end ContainerLogs.FileTree
