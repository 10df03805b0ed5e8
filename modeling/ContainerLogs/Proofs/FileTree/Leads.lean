import ContainerLogs.Proofs.FileTree.Way
import ContainerLogs.Proofs.Path

/-!
Which nodes names lead to. A lookup of a node follows the links that it meets, also the last one, and
may follow only so many; the names it has still to walk when it comes to a link are walked after the
target of the link. So what the first of its names lead to is a node on the way of all of them.
-/
namespace ContainerLogs

namespace FileTree

/-- From a directory, the names lead to a node over at most so many links. -/
inductive Leads (tree : FileTree) : (links : Nat) → Nat → List String → Nat → Prop where
  | arrived {links here} : Leads tree links here [] here
  | slash {links here rest number entries parent owner mode}
      (listed : tree.node? here = some ⟨.directory entries parent, owner, mode⟩)
      (onward : Leads tree links here rest number) : Leads tree links here ("" :: rest) number
  | self {links here rest number entries parent} (opens : tree.Opens here entries parent)
      (onward : Leads tree links here rest number) : Leads tree links here ("." :: rest) number
  | up {links here rest number entries parent} (opens : tree.Opens here entries parent)
      (onward : Leads tree links parent rest number) : Leads tree links here (".." :: rest) number
  | followed {links here name rest number entries parent label next target owner mode}
      (opens : tree.Opens here entries parent) (proper : Proper name)
      (entry : entries.find? (·.1 = name) = some (label, next))
      (link : tree.node? next = some ⟨.symlink target, owner, mode⟩) (nonempty : target ≠ "")
      (onward : Leads tree links (if isAbsolute target.toList then root else here)
        (steps target.toList ++ rest) number) :
      Leads tree (links + 1) here (name :: rest) number
  | down {links here name rest number entries parent label next}
      (opens : tree.Opens here entries parent) (proper : Proper name)
      (entry : entries.find? (·.1 = name) = some (label, next)) (noLink : ¬ tree.IsLink next)
      (onward : Leads tree links next rest number) : Leads tree links here (name :: rest) number

variable {tree : FileTree} {links here number : Nat} {names : List String}

/-- How a lookup goes on at a link that it may still follow. -/
def onLink (tree : FileTree) (purpose : Purpose) :
    (links : Nat) → Nat → List String → Except Errno Place
  | 0 => fun _ _ => .error .linkLoop
  | links + 1 => tree.walkLinks purpose links

theorem walkLinks_eq_walk (tree : FileTree) (purpose : Purpose) (links : Nat) :
    tree.walkLinks purpose links = tree.walk (tree.onLink purpose links) purpose := by
  cases links <;> rfl

theorem follow_node (onLink : Nat → List String → Except Errno Place) (here : Nat) (target : String)
    (rest : List String) : follow onLink .node here target rest =
      onLink (if isAbsolute target.toList then root else here) (steps target.toList ++ rest) := by
  cases rest <;> simp [follow, walkWhole]

private theorem leads_of_way
    (onward : ∀ {start rest}, tree.onLink .node links start rest = .ok (.taken number) →
      ∃ fewer, links = fewer + 1 ∧ tree.Leads fewer start rest number)
    (way : tree.Way (tree.onLink .node links) .node here names (.taken number)) :
    tree.Leads links here names number := by
  generalize there : Place.taken number = place at way
  induction way with
  | arrived =>
    cases there
    exact .arrived
  | slash listed way ih => exact .slash listed (ih there)
  | self opens way ih => exact .self opens (ih there)
  | up opens way ih => exact .up opens (ih there)
  | free => cases there
  | link opens proper entry isLink asked => cases asked
  | followed opens proper entry link unasked nonempty followed =>
    subst there
    rw [follow_node] at followed
    obtain ⟨fewer, rfl, leads⟩ := onward followed
    exact .followed opens proper entry link nonempty leads
  | down opens proper entry noLink way ih => exact .down opens proper entry noLink (ih there)

private theorem leads_of_walkLinks
    (walked : tree.walkLinks .node links here names = .ok (.taken number)) :
    tree.Leads links here names number := by
  -- By induction on the links that may be followed: a walk hands what stands behind a link to the
  -- walk with one link less.
  induction links generalizing here names with
  | zero =>
    rw [walkLinks_eq_walk, walk_eq_ok_iff] at walked
    exact leads_of_way nofun walked
  | succ links ih =>
    rw [walkLinks_eq_walk, walk_eq_ok_iff] at walked
    exact leads_of_way (fun followed => ⟨links, rfl, ih followed⟩) walked

namespace Leads

private theorem way (leads : tree.Leads links here names number) :
    tree.Way (tree.onLink .node links) .node here names (.taken number) := by
  induction leads with
  | arrived => exact .arrived
  | slash listed _ ih => exact .slash listed ih
  | self opens _ ih => exact .self opens ih
  | up opens _ ih => exact .up opens ih
  | @followed links here name rest number entries parent label next target owner mode opens proper
      entry link nonempty _ ih =>
    refine .followed opens proper entry link (by simp) nonempty ?_
    rw [follow_node, onLink, walkLinks_eq_walk]
    exact walk_of_way ih
  | down opens proper entry noLink _ ih => exact .down opens proper entry noLink ih

end Leads

/-- A lookup finds the node that the names lead to. -/
theorem walkLinks_eq_taken_iff :
    tree.walkLinks .node links here names = .ok (.taken number) ↔
      tree.Leads links here names number := by
  refine ⟨leads_of_walkLinks, fun leads => ?_⟩
  rw [walkLinks_eq_walk]
  exact walk_of_way leads.way

namespace Leads

/-- What more links allow includes what fewer do. -/
private theorem mono {more : Nat} (leads : tree.Leads links here names number)
    (enough : links ≤ more) :
    tree.Leads more here names number := by
  induction leads generalizing more with
  | arrived => exact .arrived
  | slash listed _ ih => exact .slash listed (ih enough)
  | self opens _ ih => exact .self opens (ih enough)
  | up opens _ ih => exact .up opens (ih enough)
  | followed opens proper entry link nonempty _ ih =>
    obtain ⟨fewer, rfl⟩ : ∃ fewer, more = fewer + 1 := ⟨more - 1, by omega⟩
    exact .followed opens proper entry link nonempty (ih (by omega))
  | down opens proper entry noLink _ ih => exact .down opens proper entry noLink (ih enough)

/-- Names lead to one node only. -/
theorem unique {links' number' : Nat} (leads : tree.Leads links here names number)
    (leads' : tree.Leads links' here names number') : number = number' := by
  have one := walkLinks_eq_taken_iff.2 (leads.mono (Nat.le_max_left links links'))
  have other := walkLinks_eq_taken_iff.2 (leads'.mono (Nat.le_max_right links links'))
  rw [one] at other
  cases other
  rfl

/-- The first of the names lead to a node, and from there the others go on. -/
theorem split {front back : List String} (leads : tree.Leads links here (front ++ back) number) :
    ∃ between, tree.Leads links here front between ∧ tree.Leads links between back number := by
  generalize whole : front ++ back = names at leads
  induction leads generalizing front with
  | arrived =>
    obtain ⟨rfl, rfl⟩ := List.append_eq_nil_iff.1 whole
    exact ⟨_, .arrived, .arrived⟩
  | slash listed onward ih =>
    rcases List.append_eq_cons_iff.1 whole with ⟨rfl, rfl⟩ | ⟨front, rfl, rfl⟩
    · exact ⟨_, .arrived, .slash listed onward⟩
    · obtain ⟨between, first, second⟩ := ih rfl
      exact ⟨between, .slash listed first, second⟩
  | self opens onward ih =>
    rcases List.append_eq_cons_iff.1 whole with ⟨rfl, rfl⟩ | ⟨front, rfl, rfl⟩
    · exact ⟨_, .arrived, .self opens onward⟩
    · obtain ⟨between, first, second⟩ := ih rfl
      exact ⟨between, .self opens first, second⟩
  | up opens onward ih =>
    rcases List.append_eq_cons_iff.1 whole with ⟨rfl, rfl⟩ | ⟨front, rfl, rfl⟩
    · exact ⟨_, .arrived, .up opens onward⟩
    · obtain ⟨between, first, second⟩ := ih rfl
      exact ⟨between, .up opens first, second⟩
  | followed opens proper entry link nonempty onward ih =>
    rcases List.append_eq_cons_iff.1 whole with ⟨rfl, rfl⟩ | ⟨front, rfl, rfl⟩
    · exact ⟨_, .arrived, .followed opens proper entry link nonempty onward⟩
    · obtain ⟨between, first, second⟩ := ih (List.append_assoc _ _ _)
      exact ⟨between, .followed opens proper entry link nonempty first, second.mono (by omega)⟩
  | down opens proper entry noLink onward ih =>
    rcases List.append_eq_cons_iff.1 whole with ⟨rfl, rfl⟩ | ⟨front, rfl, rfl⟩
    · exact ⟨_, .arrived, .down opens proper entry noLink onward⟩
    · obtain ⟨between, first, second⟩ := ih rfl
      exact ⟨between, .down opens proper entry noLink first, second⟩

/-- Names are looked up in directories only. -/
theorem directory_of_ne_nil (hasNames : names ≠ []) (leads : tree.Leads links here names number) :
    ∃ entries parent owner mode,
      tree.node? here = some ⟨.directory entries parent, owner, mode⟩ := by
  cases leads with
  | arrived => exact absurd rfl hasNames
  | slash listed => exact ⟨_, _, _, _, listed⟩
  | self opens | up opens | followed opens | down opens =>
    obtain ⟨owner, mode, listed⟩ := opens.listed
    exact ⟨_, _, owner, mode, listed⟩

end Leads

/-- A name that is there asks to search the directory. -/
private theorem Leads.opens_of_cons {name : String} (nonempty : name ≠ "")
    (leads : tree.Leads links here (name :: names) number) :
    ∃ entries parent, tree.Opens here entries parent := by
  cases leads with
  | slash => exact absurd rfl nonempty
  | self opens | up opens | followed opens | down opens => exact ⟨_, _, opens⟩

/-- Where the names of a path are looked up first. -/
def startOf (tree : FileTree) (path : Path) : Nat := if path.anchor = "" then tree.base else root

/-- A text that can be looked up. -/
structure Speakable (text : String) : Prop where
  valid : '\x00' ∉ text.toList
  nonempty : text ≠ ""
  fits : ¬ maxPathBytes < text.utf8ByteSize

private theorem Speakable.of_append {front back : String} (h : Speakable (front ++ back))
    (nonempty : front ≠ "") : Speakable front where
  valid among := h.valid (by simp [among])
  nonempty := nonempty
  fits := by
    have fits := h.fits
    rw [String.utf8ByteSize_append] at fits
    omega

/-- A text is looked up by its steps. -/
theorem resolve_eq_ok_iff {text : String} : tree.resolve text = .ok number ↔
    Speakable text ∧ tree.Leads maxLinks (if isAbsolute text.toList then root else tree.base)
      (steps text.toList) number := by
  rw [← walkLinks_eq_taken_iff]
  unfold resolve place
  simp only [walkWhole]
  constructor
  · intro resolved
    split at resolved <;> rename_i placed
    · cases resolved
      split at placed
      · cases placed
      split at placed
      · cases placed
      split at placed
      · cases placed
      split at placed
      · cases placed
        rename_i valid nonempty fits _ walked
        rw [if_neg (by simp)] at walked
        exact ⟨⟨by simpa using valid, nonempty, fits⟩, walked⟩
      · cases placed
    · cases resolved
    · cases resolved
  · rintro ⟨⟨valid, nonempty, fits⟩, walked⟩
    simp [valid, nonempty, fits, walked]

/-- What is opened is what the text leads to. -/
theorem resolve_of_openNode {text : String} (opened : tree.openNode text = .ok number) :
    tree.resolve text = .ok number := by
  unfold openNode at opened
  cases resolved : tree.resolve text with
  | error refusal => simp [resolved, bind, Except.bind] at opened
  | ok other =>
    simp only [resolved, bind, Except.bind] at opened
    split at opened <;> cases opened
    rfl

private theorem isDirectory_of_resolve {text : String} {entries : List (String × Nat)}
    {parent owner mode : Nat} (resolved : tree.resolve text = .ok number)
    (listed : tree.node? number = some ⟨.directory entries parent, owner, mode⟩) :
    tree.isDirectory text = .ok true := by
  simp [isDirectory, examine, stat, resolved, listed, bind, Except.bind, Node.isDirectory]

section Path

variable {path : Path} (plain : path.Plain)
include plain

theorem start_eq (tree : FileTree) (hasParts : path.parts ≠ []) :
    (if isAbsolute path.text.toList then root else tree.base) = tree.startOf path := by
  rw [plain.isAbsolute_text hasParts, startOf]
  by_cases relative : path.anchor = "" <;> simp [relative]

/-- A path with parts leads where its parts lead. -/
theorem resolve_plain_iff (hasParts : path.parts ≠ []) : tree.resolve path.text = .ok number ↔
    Speakable path.text ∧ tree.Leads maxLinks (tree.startOf path) path.parts number := by
  rw [resolve_eq_ok_iff, plain.steps_text hasParts, start_eq plain tree hasParts]

/-- What stands above a node that a path leads to is a directory. -/
theorem isDirectory_of_below {below : List String} (hasNames : below ≠ [])
    (plainBelow : ∀ name ∈ below, Path.PlainPart name)
    (resolved : tree.resolve (path.append ⟨"", below⟩).text = .ok number) :
    tree.isDirectory path.text = .ok true := by
  have named : (path.append ⟨"", below⟩).parts ≠ [] := by simp [hasNames]
  obtain ⟨speakable, leads⟩ := (resolve_plain_iff (plain.append plainBelow) named).1 resolved
  rw [Path.append_parts _ _ rfl] at leads
  obtain ⟨there, above, onward⟩ := leads.split
  obtain ⟨entries, parent, owner, mode, listed⟩ := onward.directory_of_ne_nil hasNames
  by_cases bare : path.parts = []
  · obtain ⟨anchor, parts⟩ := path
    obtain rfl : parts = [] := bare
    cases above
    refine isDirectory_of_resolve (resolve_eq_ok_iff.2 ?_) listed
    rcases plain.anchor with rfl | rfl | rfl
    · obtain ⟨first, others, rfl⟩ := List.exists_cons_of_ne_nil hasNames
      obtain ⟨_, _, opens⟩ := onward.opens_of_cons (plainBelow first List.mem_cons_self).1
      exact ⟨⟨by decide, by decide, by decide⟩, .self opens .arrived⟩
    · exact ⟨⟨by decide, by decide, by decide⟩, .slash listed .arrived⟩
    · exact ⟨⟨by decide, by decide, by decide⟩, .slash listed .arrived⟩
  · refine isDirectory_of_resolve ((resolve_plain_iff plain bare).2 ⟨?_, above⟩) listed
    rw [Path.text_append bare hasNames, String.append_assoc] at speakable
    exact speakable.of_append (plain.text_ne_empty bare)

end Path

end FileTree

end ContainerLogs
