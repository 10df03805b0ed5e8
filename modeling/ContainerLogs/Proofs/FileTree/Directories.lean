import ContainerLogs.Proofs.FileTree.Making
import Mathlib.Data.Nat.Bitwise

/-!
Under which modes directories are made. A process gets the permission bits that it asks for and does
not withhold itself; where a directory is made with its missing ancestors, the mode that was asked for
is that of the directory only, and its ancestors get all the bits that the process does not withhold.
-/
namespace ContainerLogs

/-- No permission bit of a mode is outside those allowed. -/
def Within (allowed mode : Nat) : Prop :=
  ∀ bit < 9, mode.testBit bit = true → allowed.testBit bit = true

instance (allowed mode : Nat) : Decidable (Within allowed mode) :=
  inferInstanceAs (Decidable (∀ bit < 9, mode.testBit bit = true → allowed.testBit bit = true))

private theorem testBit_permissions {bit : Nat} (permission : bit < 9) :
    (0o777).testBit bit = true := by
  rw [show 0o777 = 2 ^ 9 - 1 from rfl, Nat.testBit_two_pow_sub_one]
  simpa using permission

namespace Process

variable {process : Process} {asked mode : Nat}

/-- The permission bits of a mode are those asked for that the process does not withhold. -/
def Gives (process : Process) (asked mode : Nat) : Prop :=
  ∀ bit < 9, mode.testBit bit = (asked.testBit bit && !process.umask.testBit bit)

/-- A mode asked for is granted but for the bits withheld; the set-group bit, which a directory may
pass on, is no permission. -/
private theorem gives_granted (process : Process) (asked other : Nat) :
    process.Gives asked (process.granted asked ||| other &&& 0o2000) := by
  intro bit permission
  have low : (0o7777).testBit bit = true := by
    rw [show 0o7777 = 2 ^ 12 - 1 from rfl, Nat.testBit_two_pow_sub_one]
    simpa using Nat.lt_trans permission (by decide)
  have group : (0o2000).testBit bit = false := by
    rw [show 0o2000 = 2 ^ 10 from rfl, Nat.testBit_two_pow]
    simp
    omega
  simp [granted, Nat.testBit_or, Nat.testBit_and, Nat.testBit_xor, low, testBit_permissions permission,
    group]

/-- Whether a mode that was given is within what is allowed. -/
theorem Gives.within_iff (given : process.Gives asked mode) (allowed : Nat) :
    Within allowed mode ↔ ∀ bit < 9, asked.testBit bit = true →
      process.umask.testBit bit = true ∨ allowed.testBit bit = true := by
  unfold Within
  refine forall₂_congr fun bit permission => ?_
  rw [given bit permission]
  cases process.umask.testBit bit <;> simp

/-- Who gets all that is not withheld stays within what is allowed only by withholding the rest. -/
theorem Gives.within_iff_of_all (given : process.Gives 0o777 mode) (allowed : Nat) :
    Within allowed mode ↔
      ∀ bit < 9, allowed.testBit bit = false → process.umask.testBit bit = true := by
  rw [given.within_iff]
  refine forall₂_congr fun bit permission => ?_
  rw [testBit_permissions permission]
  cases allowed.testBit bit <;> simp

end Process

namespace FileTree

variable {before after tree : FileTree} {process : Process}

/-- Names lead over directories and links only, which are all still there. -/
private theorem Extends.leads (h : Extends before after) {links here number : Nat}
    {names : List String} (leads : before.Leads links here names number) :
    after.Leads links here names number := by
  induction leads with
  | arrived => exact .arrived
  | slash listed _ ih =>
    obtain ⟨more, listed'⟩ := h.directory listed
    exact .slash listed' ih
  | self opens _ ih =>
    obtain ⟨more, opens'⟩ := h.opens opens
    exact .self opens' ih
  | up opens _ ih =>
    obtain ⟨more, opens'⟩ := h.opens opens
    exact .up opens' ih
  | followed opens proper entry link nonempty _ ih =>
    obtain ⟨more, opens'⟩ := h.opens opens
    exact .followed opens' proper (by rw [List.find?_append, entry, Option.some_or]) (h.symlink.2 link)
      nonempty ih
  | down opens proper entry noLink _ ih =>
    obtain ⟨more, opens'⟩ := h.opens opens
    exact .down opens' proper (by rw [List.find?_append, entry, Option.some_or])
      (mt h.isLink_iff.1 noLink) ih

private theorem Extends.resolve (h : Extends before after) {text : String} {number : Nat}
    (resolved : before.resolve text = .ok number) : after.resolve text = .ok number := by
  rw [resolve_eq_ok_iff] at resolved ⊢
  rw [h.base]
  exact ⟨resolved.1, h.leads resolved.2⟩

private theorem Extends.trans {between : FileTree} (h : Extends before between)
    (h' : Extends between after) :
    Extends before after where
  base := h'.base.trans h.base
  user := h'.user.trans h.user
  directory found := by
    obtain ⟨more, found'⟩ := h.directory found
    obtain ⟨more', found''⟩ := h'.directory found'
    exact ⟨more ++ more', by rwa [← List.append_assoc]⟩
  symlink := h'.symlink.trans h.symlink

private theorem OnlyMade.extends {way : Path} (h : OnlyMade way before after) :
    Extends before after where
  base := h.keeps.base
  user := h.keeps.user
  directory found := by
    obtain ⟨more, found', -⟩ := h.gained found
    exact ⟨more, found'⟩
  symlink := ⟨h.keeps.link, fun found => h.keeps.node found rfl⟩

/-- A tree with more directories, each of which is one that was there or is where its path leads to,
under a mode that is right for that path. -/
structure Gains (right : Path → Nat → Prop) (before after : FileTree) : Prop extends
    Extends before after where
  made : ∀ {number entries parent owner mode},
    after.node? number = some ⟨.directory entries parent, owner, mode⟩ →
    (∃ entries', before.node? number = some ⟨.directory entries' parent, owner, mode⟩) ∨
      ∃ path, right path mode ∧ after.resolve path.text = .ok number

namespace Gains

variable {right right' : Path → Nat → Prop} {first second third : FileTree}

private theorem refl (right : Path → Nat → Prop) (tree : FileTree) : Gains right tree tree where
  toExtends := .refl tree
  made found := .inl ⟨_, found⟩

theorem trans (h : Gains right first second) (h' : Gains right second third) :
    Gains right first third where
  toExtends := h.toExtends.trans h'.toExtends
  made found := by
    rcases h'.made found with ⟨_, found'⟩ | new
    · rcases h.made found' with old | ⟨path, fits, resolved⟩
      · exact .inl old
      · exact .inr ⟨path, fits, h'.resolve resolved⟩
    · exact .inr new

private theorem mono (h : Gains right before after)
    (more : ∀ path mode, right path mode → right' path mode) :
    Gains right' before after where
  toExtends := h.toExtends
  made found := by
    rcases h.made found with old | ⟨path, fits, resolved⟩
    · exact .inl old
    · exact .inr ⟨path, more path _ fits, resolved⟩

end Gains

private theorem exists_inheritedMode (tree : FileTree) (directory : Nat) :
    ∃ other, tree.inheritedMode directory = other &&& 0o2000 := by
  unfold inheritedMode
  split
  · exact ⟨_, rfl⟩
  · exact ⟨0, rfl⟩

private theorem makeDirectory_gains {path : Path} {bits : Nat}
    (made : tree.makeDirectory process path.text bits = .ok after) :
    Gains (fun other mode => other = path ∧ process.Gives bits mode) tree after where
  toExtends := (makeDirectory_onlyMade made).extends
  made {number entries parent owner mode} found := by
    have resolved := resolve_of_makeDirectory made
    obtain ⟨directory, name, placed, rfl⟩ := makeDirectory_eq_ok made
    rcases directory_of_created (vacant_of_place placed) found with old | ⟨rfl, node⟩
    · exact .inl old
    · obtain ⟨other, inherited⟩ := tree.exists_inheritedMode directory
      have gives := process.gives_granted bits other
      rw [← inherited] at gives
      cases node
      exact .inr ⟨path, ⟨rfl, gives⟩, resolved⟩

/-- The modes on a way: the last directory is made under the mode that is asked for, and those above
it under all that the process does not withhold. -/
def RightOnWay (process : Process) (way : Path) (mode : Nat) (above : Path) (given : Nat) : Prop :=
  above.anchor = way.anchor ∧ above.parts <+: way.parts ∧
    process.Gives (if above = way then mode else 0o777) given

private theorem rightOnWay_self {way above : Path} {mode given : Nat} (same : above = way)
    (gives : process.Gives mode given) : RightOnWay process way mode above given := by
  subst same
  exact ⟨rfl, List.prefix_rfl, by rwa [if_pos rfl]⟩

private theorem makeOrKeep_gains (tree : FileTree) (process : Process) (path : Path) (mode : Nat) :
    Gains (RightOnWay process path mode) tree (tree.makeOrKeep process path.text mode).1 := by
  unfold makeOrKeep
  cases made : tree.makeDirectory process path.text mode with
  | ok after => exact (makeDirectory_gains made).mono fun _ _ fits => rightOnWay_self fits.1 fits.2
  | error refusal =>
    simp only
    split
    · exact .refl _ tree
    · rw [keepDirectory_fst]
      exact .refl _ tree

/-- The ancestors of a directory are not made under the mode that is asked for it. -/
private theorem rightOnWay_of_parent {way above : Path} {mode given : Nat}
    (hasParts : way.parts ≠ []) (fits : RightOnWay process way.parent 0o777 above given) :
    RightOnWay process way mode above given := by
  obtain ⟨anchor, parts, gives⟩ := fits
  have shorter := Path.length_parent_lt hasParts
  have higher : above ≠ way := by
    rintro rfl
    have longer := parts.length_le
    omega
  refine ⟨anchor, parts.trans (List.dropLast_prefix _), ?_⟩
  rw [ite_self] at gives
  rwa [if_neg higher]

/-- A request for a directory with its missing ancestors, refused half-way or not. -/
theorem makeDirectories_gains (tree : FileTree) (process : Process) (path : Path) (mode : Nat) :
    Gains (RightOnWay process path mode) tree (tree.makeDirectories process path mode).1 := by
  rw [makeDirectories.eq_def]
  cases made : tree.makeDirectory process path.text mode with
  | ok after => exact (makeDirectory_gains made).mono fun _ _ fits => rightOnWay_self fits.1 fits.2
  | error refusal =>
    simp only
    split
    · rename_i absent
      have shorter := Path.length_parent_lt absent.2
      have parents : Gains (RightOnWay process path mode) tree
          (tree.makeDirectories process path.parent 0o777).1 :=
        (makeDirectories_gains tree process path.parent 0o777).mono
          fun _ _ => rightOnWay_of_parent absent.2
      rcases ancestors : tree.makeDirectories process path.parent 0o777 with ⟨between, _ | stopped⟩
      · rw [ancestors] at parents
        exact parents.trans (between.makeOrKeep_gains process path mode)
      · rw [ancestors] at parents
        exact parents
    split
    · exact .refl _ tree
    · rw [keepDirectory_fst]
      exact .refl _ tree
termination_by path.parts.length

/-- Changes of what is no directory change no directory. -/
theorem SameBut.directory_iff {number other : Nat} {node : Node} (same : SameBut number before after)
    (noDirectory : before.NoDirectory number) (noDirectory' : after.NoDirectory number)
    (isDirectory : node.isDirectory = true) :
    after.node? other = some node ↔ before.node? other = some node := by
  by_cases here : other = number
  · subst here
    constructor
    · intro found
      cases isDirectory.symm.trans (noDirectory' node found)
    · intro found
      cases isDirectory.symm.trans (noDirectory node found)
  · rw [same.node?_eq other here]

/-- Opening a file makes no directory, and no directory is opened. -/
theorem openForWriting_gains {right : Path → Nat → Prop} {path : String} {bits number : Nat}
    (opened : tree.openForWriting process path bits = .ok (after, number)) :
    Gains right tree after ∧ after.NoDirectory number := by
  rcases openForWriting_eq_ok opened with ⟨-, noDirectory, rfl⟩ | ⟨directory, name, placed, rfl, rfl⟩
  · exact ⟨.refl _ after, noDirectory⟩
  · have free := vacant_of_place placed
    constructor
    · refine ⟨extends_created free, fun found => ?_⟩
      rcases directory_of_created free found with old | ⟨-, node⟩
      · exact .inl old
      · cases node
    · intro node found
      rw [node?_created_new free] at found
      cases found
      rfl

end FileTree

end ContainerLogs
