import ContainerLogs.Proofs.FileTree.Addition
import ContainerLogs.Proofs.FileTree.Contents
import ContainerLogs.Proofs.FileTree.Renaming

/-!
What changes leave alone. Files, links and pipes stay as they were, and directories keep their names,
apart from those that were given up on purpose. So whatever was found without looking for such a name
is still found.
-/
namespace ContainerLogs.FileTree

/-- A name that is given up, in the directory of that number. -/
abbrev Lost := Nat → String → Prop

/-- No name is given up. -/
def Lost.none : Lost := fun _ _ => False

/-- At most one name is given up. -/
def Lost.only (directory : Nat) (name : String) : Lost :=
  fun number other => number = directory ∧ other = name

/-- Everything is as it was, but directories may have more names, and a name that was given up may
stand for something else or for nothing. -/
structure Keeps (lost : Lost) (before after : FileTree) : Prop where
  base : after.base = before.base
  user : after.user = before.user
  node : ∀ {number node}, before.node? number = some node → node.isDirectory = false →
    after.node? number = some node
  directory : ∀ {number entries parent owner mode},
    before.node? number = some ⟨.directory entries parent, owner, mode⟩ →
    ∃ entries', after.node? number = some ⟨.directory entries' parent, owner, mode⟩ ∧
      ∀ name found, ¬ lost number name → entries.find? (·.1 = name) = some found →
        entries'.find? (·.1 = name) = some found
  link : ∀ {number target owner mode}, after.node? number = some ⟨.symlink target, owner, mode⟩ →
    before.node? number = some ⟨.symlink target, owner, mode⟩

namespace Keeps

variable {lost : Lost} {first second third before after tree : FileTree}

theorem refl (lost : Lost) (tree : FileTree) : Keeps lost tree tree where
  base := rfl
  user := rfl
  node found _ := found
  directory found := ⟨_, found, fun _ _ _ among => among⟩
  link found := found

theorem trans (h : Keeps lost first second) (h' : Keeps lost second third) :
    Keeps lost first third where
  base := h'.base.trans h.base
  user := h'.user.trans h.user
  node found noDirectory := h'.node (h.node found noDirectory) noDirectory
  directory found := by
    obtain ⟨between, found', kept⟩ := h.directory found
    obtain ⟨entries, found'', kept'⟩ := h'.directory found'
    exact ⟨entries, found'', fun name found held among =>
      kept' name found held (kept name found held among)⟩
  link found := h.link (h'.link found)

/-- A name that was not there is not given up. -/
theorem weaken {lost' : Lost} (h : Keeps lost before after)
    (covered : ∀ number name, lost number name → lost' number name ∨
      ∀ entries parent owner mode, before.node? number = some ⟨.directory entries parent, owner, mode⟩ →
        entries.find? (·.1 = name) = none) : Keeps lost' before after where
  base := h.base
  user := h.user
  node := h.node
  directory {number entries parent owner mode} found := by
    obtain ⟨entries', found', kept⟩ := h.directory found
    refine ⟨entries', found', fun name labelled held among => kept name labelled ?_ among⟩
    intro given
    rcases covered number name given with given | absent
    · exact held given
    · rw [absent entries parent owner mode found] at among
      cases among
  link := h.link

theorem mono {lost' : Lost} (h : Keeps lost before after)
    (more : ∀ number name, lost number name → lost' number name) : Keeps lost' before after :=
  h.weaken fun number name given => .inl (more number name given)

theorem of_none (h : Keeps .none before after) (lost : Lost) : Keeps lost before after :=
  h.mono fun _ _ given => given.elim

private theorem setEntries (tree : FileTree) (directory : Nat)
    (change : List (String × Nat) → List (String × Nat))
    (kept : ∀ entries name found, ¬ lost directory name → entries.find? (·.1 = name) = some found →
      (change entries).find? (·.1 = name) = some found) :
    Keeps lost tree (tree.setEntries directory change) where
  base := rfl
  user := rfl
  node {number node} found noDirectory := by
    by_cases here : directory = number
    · subst here
      obtain ⟨kind, owner, mode⟩ := node
      rw [FileTree.setEntries, node?_update_self, found]
      cases kind with
      | directory => cases noDirectory
      | file | symlink | fifo => rfl
    · rw [FileTree.setEntries, node?_update_ne _ _ here, found]
  directory {number entries parent owner mode} found := by
    by_cases here : directory = number
    · subst here
      exact ⟨change entries, node?_setEntries change found, fun name => kept entries name⟩
    · refine ⟨entries, ?_, fun _ _ _ among => among⟩
      rw [FileTree.setEntries, node?_update_ne _ _ here, found]
  link {number target owner mode} found := by
    by_cases here : directory = number
    · subst here
      rw [FileTree.setEntries, node?_update_self, Option.map_eq_some_iff] at found
      obtain ⟨⟨kind, owner', mode'⟩, held, changed⟩ := found
      cases kind with
      | directory | file | fifo => cases changed
      | symlink =>
        cases changed
        exact held
    · rwa [FileTree.setEntries, node?_update_ne _ _ here] at found

theorem linked (tree : FileTree) (directory : Nat) (name : String) (target : Nat) :
    Keeps .none tree (tree.link directory name target) := by
  refine setEntries tree directory _ fun entries other found _ among => ?_
  rw [List.find?_append, among, Option.some_or]

/-- Who gives up a name keeps the others. -/
theorem unlinked (tree : FileTree) (directory : Nat) (name : String) :
    Keeps (.only directory name) tree (tree.unlink directory name) := by
  refine setEntries tree directory _ fun entries other found held among => ?_
  have ne : other ≠ name := fun same => held ⟨rfl, same⟩
  rw [List.find?_filter, ← among]
  congr 1
  funext entry
  by_cases named : entry.1 = other
  · simp [named, ne]
  · simp [named]

/-- A new node takes no number that was in use. -/
private theorem allocated (tree : FileTree) {node : Node}
    (noLink : ∀ target, node.kind ≠ .symlink target) :
    Keeps lost tree (tree.allocate node).1 := by
  have old {number : Nat} {held : Node} (found : tree.node? number = some held) :
      (tree.allocate node).1.node? number = some held := by
    rw [node?_allocate, if_neg (Nat.ne_of_lt (lt_length_of_node? found)), found]
  refine ⟨rfl, rfl, fun found _ => old found, fun found => ⟨_, old found, fun _ _ _ among => among⟩, ?_⟩
  intro number target owner mode found
  rw [node?_allocate] at found
  split at found
  · cases found
    exact absurd rfl (noLink target)
  · exact found

theorem created (tree : FileTree) (directory : Nat) (name : String) {node : Node}
    (noLink : ∀ target, node.kind ≠ .symlink target) :
    Keeps .none tree (tree.created directory name node) :=
  (allocated tree noLink).trans (linked _ directory name _)

/-- What becomes of a new file does not matter to what was there before. -/
theorem change_new {number : Nat} (h : Keeps lost first second)
    (new : first.node? number = none) (same : SameBut number second third)
    (noLink : ¬ third.IsLink number) : Keeps lost first third := by
  have other {old : Nat} {node : Node} (found : first.node? old = some node) : old ≠ number := by
    rintro rfl
    rw [new] at found
    cases found
  refine ⟨same.base.trans h.base, same.user.trans h.user, ?_, ?_, ?_⟩
  · intro old node found noDirectory
    rw [same.node?_eq old (other found)]
    exact h.node found noDirectory
  · intro old entries parent owner mode found
    rw [same.node?_eq old (other found)]
    exact h.directory found
  · intro old target owner mode found
    by_cases here : old = number
    · subst here
      exact absurd ⟨target, owner, mode, found⟩ noLink
    · rw [same.node?_eq old here] at found
      exact h.link found

section Lookup

variable (h : Keeps lost before after)
include h

theorem opens {here parent : Nat} {entries : List (String × Nat)}
    (opens : before.Opens here entries parent) :
    ∃ entries', after.Opens here entries' parent ∧
      ∀ name found, ¬ lost here name → entries.find? (·.1 = name) = some found →
        entries'.find? (·.1 = name) = some found := by
  obtain ⟨⟨owner, mode, listed⟩, granted⟩ := opens
  obtain ⟨entries', listed', kept⟩ := h.directory listed
  refine ⟨entries', ⟨⟨owner, mode, listed'⟩, ?_⟩, kept⟩
  rw [← granted]
  simp [permits, listed, listed', h.user, Node.permits]

theorem permits {directory parent : Nat} {entries : List (String × Nat)}
    (opens : before.Opens directory entries parent) (right : Right) :
    after.permits directory right = before.permits directory right := by
  obtain ⟨owner, mode, listed⟩ := opens.listed
  obtain ⟨entries', listed', -⟩ := h.directory listed
  simp [FileTree.permits, listed, listed', h.user, Node.permits]

/-- What was found is still found, unless a name was looked for that is given up. -/
theorem leads {links here number : Nat} {names : List String}
    (leads : before.Leads links here names number)
    (spared : ∀ directory name, lost directory name → ¬ before.Seeks directory name here names) :
    after.Leads links here names number := by
  induction leads with
  | arrived => exact .arrived
  | slash listed _ ih =>
    obtain ⟨entries, listed', -⟩ := h.directory listed
    exact .slash listed' (ih fun directory name given seeks =>
      spared directory name given (.slash listed seeks))
  | self opens _ ih =>
    obtain ⟨entries, opens', -⟩ := h.opens opens
    exact .self opens' (ih fun directory name given seeks =>
      spared directory name given (.self opens seeks))
  | up opens _ ih =>
    obtain ⟨entries, opens', -⟩ := h.opens opens
    exact .up opens' (ih fun directory name given seeks =>
      spared directory name given (.up opens seeks))
  | followed opens proper entry link nonempty _ ih =>
    obtain ⟨entries, opens', kept⟩ := h.opens opens
    have held := fun given => spared _ _ given (.here opens proper)
    exact .followed opens' proper (kept _ _ held entry) (h.node link rfl) nonempty
      (ih fun directory name given seeks =>
        spared directory name given (.followed opens proper entry link nonempty seeks))
  | down opens proper entry noLink _ ih =>
    obtain ⟨entries, opens', kept⟩ := h.opens opens
    have held := fun given => spared _ _ given (.here opens proper)
    refine .down opens' proper (kept _ _ held entry) ?_
      (ih fun directory name given seeks =>
        spared directory name given (.down opens proper entry noLink seeks))
    rintro ⟨target, owner, mode, link⟩
    exact noLink ⟨target, owner, mode, h.link link⟩

end Lookup

end Keeps

variable {tree after : FileTree} {process : Process}

theorem makeDirectory_keeps {path : String} {mode : Nat}
    (made : tree.makeDirectory process path mode = .ok after) : Keeps .none tree after := by
  unfold makeDirectory at made
  cases placed : tree.place path .link with
  | error refusal =>
    rw [placed] at made
    cases made
  | ok place =>
    rw [placed] at made
    cases place with
    | taken => cases made
    | free directory name =>
      simp only [bind, Except.bind] at made
      split at made
      · cases made
      · cases made
        exact .created tree directory name nofun

private theorem makeOrKeep_keeps (tree : FileTree) (process : Process) (path : String)
    (mode : Nat) :
    Keeps .none tree (tree.makeOrKeep process path mode).1 := by
  unfold makeOrKeep
  cases made : tree.makeDirectory process path mode with
  | ok after => exact makeDirectory_keeps made
  | error refusal =>
    simp only
    split
    · exact .refl _ tree
    · rw [keepDirectory_fst]
      exact .refl _ tree

/-- Making directories keeps all that was there, also if it is refused half-way. -/
theorem makeDirectories_keeps (tree : FileTree) (process : Process) (path : Path) (mode : Nat) :
    Keeps .none tree (tree.makeDirectories process path mode).1 := by
  rw [makeDirectories.eq_def]
  cases made : tree.makeDirectory process path.text mode with
  | ok after => exact makeDirectory_keeps made
  | error refusal =>
    simp only
    split
    · rename_i absent
      have shorter := Path.length_parent_lt absent.2
      have parents := makeDirectories_keeps tree process path.parent 0o777
      rcases ancestors : tree.makeDirectories process path.parent 0o777 with ⟨between, _ | stopped⟩
      · rw [ancestors] at parents
        exact parents.trans (between.makeOrKeep_keeps process path.text mode)
      · rw [ancestors] at parents
        exact parents
    split
    · exact .refl _ tree
    · rw [keepDirectory_fst]
      exact .refl _ tree
termination_by path.parts.length

end ContainerLogs.FileTree
