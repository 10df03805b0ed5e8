import ContainerLogs.FileTree.Operation

/-!
The ways that lookups take. A walk that comes to an end went through directories name by name; a
derivation records what it met at each of them, so that what later trees have in common with this
one is shown for one name at a time.
-/
namespace ContainerLogs.FileTree

/-- A directory in which names may be looked up. -/
structure Opens (tree : FileTree) (here : Nat) (entries : List (String × Nat)) (parent : Nat) :
    Prop where
  listed : ∃ owner mode, tree.node? here = some ⟨.directory entries parent, owner, mode⟩
  granted : tree.permits here .search = true

/-- A name that an entry can have. -/
structure Proper (name : String) : Prop where
  nonempty : name ≠ ""
  notHere : name ≠ "."
  notParent : name ≠ ".."
  short : ¬ maxNameBytes < name.utf8ByteSize

def IsLink (tree : FileTree) (number : Nat) : Prop :=
  ∃ target owner mode, tree.node? number = some ⟨.symlink target, owner, mode⟩

/-- Goes on at the target of a link, with the names that stand behind it. -/
def follow (onLink : Nat → List String → Except Errno Place) (purpose : Purpose) (here : Nat)
    (target : String) (rest : List String) : Except Errno Place :=
  let start := if isAbsolute target.toList then root else here
  if rest.isEmpty then walkWhole onLink purpose start target.toList
  else onLink start (steps target.toList ++ rest)

/-- The names lead from a directory to a place. -/
inductive Way (tree : FileTree) (onLink : Nat → List String → Except Errno Place)
    (purpose : Purpose) : Nat → List String → Place → Prop where
  | arrived {here} : Way tree onLink purpose here [] (.taken here)
  | slash {here rest place entries parent owner mode}
      (listed : tree.node? here = some ⟨.directory entries parent, owner, mode⟩)
      (way : Way tree onLink purpose here rest place) : Way tree onLink purpose here ("" :: rest) place
  | self {here rest place entries parent} (opens : tree.Opens here entries parent)
      (way : Way tree onLink purpose here rest place) :
      Way tree onLink purpose here ("." :: rest) place
  | up {here rest place entries parent} (opens : tree.Opens here entries parent)
      (way : Way tree onLink purpose parent rest place) :
      Way tree onLink purpose here (".." :: rest) place
  | free {here name entries parent} (opens : tree.Opens here entries parent)
      (proper : Proper name) (absent : entries.find? (·.1 = name) = none) :
      Way tree onLink purpose here [name] (.free here name)
  | link {here name entries parent label next} (opens : tree.Opens here entries parent)
      (proper : Proper name) (entry : entries.find? (·.1 = name) = some (label, next))
      (isLink : tree.IsLink next) (asked : purpose = .link) :
      Way tree onLink purpose here [name] (.taken next)
  | followed {here name rest place entries parent label next target owner mode}
      (opens : tree.Opens here entries parent) (proper : Proper name)
      (entry : entries.find? (·.1 = name) = some (label, next))
      (link : tree.node? next = some ⟨.symlink target, owner, mode⟩)
      (unasked : ¬ (rest = [] ∧ purpose = .link)) (nonempty : target ≠ "")
      (followed : follow onLink purpose here target rest = .ok place) :
      Way tree onLink purpose here (name :: rest) place
  | down {here name rest place entries parent label next} (opens : tree.Opens here entries parent)
      (proper : Proper name) (entry : entries.find? (·.1 = name) = some (label, next))
      (noLink : ¬ tree.IsLink next) (way : Way tree onLink purpose next rest place) :
      Way tree onLink purpose here (name :: rest) place

variable {tree : FileTree} {onLink : Nat → List String → Except Errno Place} {purpose : Purpose}
  {here : Nat} {names : List String} {place : Place}

theorem walk_proper {name : String} {rest : List String} {entries : List (String × Nat)}
    {parent : Nat} (opens : tree.Opens here entries parent) (proper : Proper name) :
    tree.walk onLink purpose here (name :: rest) =
      match entries.find? (·.1 = name) with
      | none => if rest.isEmpty then .ok (.free here name) else .error .noEntry
      | some (_, next) =>
          match tree.node? next with
          | some ⟨.symlink target, _, _⟩ =>
              if rest.isEmpty ∧ purpose = .link then .ok (.taken next)
              else if target = "" then .error .noEntry
              else follow onLink purpose here target rest
          | _ => tree.walk onLink purpose next rest := by
  obtain ⟨⟨owner, mode, listed⟩, granted⟩ := opens
  obtain ⟨nonempty, notHere, notParent, short⟩ := proper
  rw [walk]
  simp only [listed, granted, nonempty, notHere, notParent, short, not_true, if_false]
  rfl

theorem walk_of_way (way : tree.Way onLink purpose here names place) :
    tree.walk onLink purpose here names = .ok place := by
  induction way with
  | arrived => rfl
  | slash listed way ih => simpa [walk, listed] using ih
  | self opens way ih =>
    obtain ⟨⟨owner, mode, listed⟩, granted⟩ := opens
    simpa [walk, listed, granted] using ih
  | up opens way ih =>
    obtain ⟨⟨owner, mode, listed⟩, granted⟩ := opens
    simpa [walk, listed, granted] using ih
  | free opens proper absent => simp [walk_proper opens proper, absent]
  | link opens proper entry isLink asked =>
    obtain ⟨target, owner, mode, link⟩ := isLink
    simp [walk_proper opens proper, entry, link, asked]
  | followed opens proper entry link unasked nonempty followed =>
    simpa [walk_proper opens proper, entry, link, unasked, nonempty] using followed
  | down opens proper entry noLink way ih =>
    rw [walk_proper opens proper, entry]
    simp only
    split
    · exact absurd ⟨_, _, _, ‹_›⟩ noLink
    · exact ih

/-- Where an entry leads decides how the way goes on. -/
private theorem way_of_walk_proper {name : String} {rest : List String}
    {entries : List (String × Nat)} {parent : Nat} (opens : tree.Opens here entries parent)
    (proper : Proper name) (onward : ∀ {next}, tree.walk onLink purpose next rest = .ok place →
      tree.Way onLink purpose next rest place)
    (walked : tree.walk onLink purpose here (name :: rest) = .ok place) :
    tree.Way onLink purpose here (name :: rest) place := by
  rw [walk_proper opens proper] at walked
  cases entry : entries.find? (·.1 = name) with
  | none =>
    simp only [entry] at walked
    split at walked
    · rename_i last
      cases walked
      obtain rfl : rest = [] := by simpa using last
      exact .free opens proper entry
    · cases walked
  | some labelled =>
    obtain ⟨label, next⟩ := labelled
    simp only [entry] at walked
    split at walked
    · rename_i target _ _ link
      split at walked
      · rename_i asked
        cases walked
        obtain rfl : rest = [] := by simpa using asked.1
        exact .link opens proper entry ⟨_, _, _, link⟩ asked.2
      · rename_i unasked
        split at walked
        · cases walked
        · exact .followed opens proper entry link (by simpa using unasked) ‹_› walked
    · rename_i noLink
      refine .down opens proper entry ?_ (onward walked)
      rintro ⟨target, owner, mode, link⟩
      exact noLink _ _ _ link

private theorem way_of_walk (walked : tree.walk onLink purpose here names = .ok place) :
    tree.Way onLink purpose here names place := by
  induction names generalizing here with
  | nil =>
    cases walked
    exact .arrived
  | cons name rest ih =>
    by_cases directory : ∃ entries parent owner mode,
        tree.node? here = some ⟨.directory entries parent, owner, mode⟩
    · obtain ⟨entries, parent, owner, mode, listed⟩ := directory
      by_cases slash : name = ""
      · subst slash
        exact .slash listed (ih (by simpa [walk, listed] using walked))
      by_cases granted : tree.permits here .search = true
      · have opens : tree.Opens here entries parent := ⟨⟨owner, mode, listed⟩, granted⟩
        by_cases self : name = "."
        · subst self
          exact .self opens (ih (by simpa [walk, listed, granted] using walked))
        by_cases up : name = ".."
        · subst up
          exact .up opens (ih (by simpa [walk, listed, granted] using walked))
        by_cases long : maxNameBytes < name.utf8ByteSize
        · simp [walk, listed, granted, slash, self, up, long] at walked
        exact way_of_walk_proper opens ⟨slash, self, up, long⟩ ih walked
      · simp [walk, listed, slash, granted] at walked
    · rw [walk] at walked
      split at walked
      · exact absurd ⟨_, _, _, _, ‹_›⟩ directory
      · cases walked

/-- A walk ends at a place exactly if the names lead to it. -/
theorem walk_eq_ok_iff :
    tree.walk onLink purpose here names = .ok place ↔ tree.Way onLink purpose here names place :=
  ⟨way_of_walk, walk_of_way⟩

end ContainerLogs.FileTree
