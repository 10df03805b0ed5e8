/-!
How alike two texts are. Their longest common block counts, and then the longest common blocks of
what stands before it and of what stands after it; texts are alike if at least three fifths of their
characters are found in common blocks.
-/
namespace ContainerLogs.Text

/-- A run of characters that two texts share, by where it starts in either of them. -/
structure CommonBlock where
  left : Nat
  right : Nat
  length : Nat
  deriving DecidableEq, Repr

namespace CommonBlock

/-- How many characters two texts start with alike. -/
def frontLength : List Char → List Char → Nat
  | a :: left, b :: right => if a = b then frontLength left right + 1 else 0
  | _, _ => 0

/-- The blocks from each pair of places on. -/
def all (left right : List Char) : List CommonBlock :=
  (List.range left.length).flatMap fun i =>
    (List.range right.length).map fun j => ⟨i, j, frontLength (left.drop i) (right.drop j)⟩

def longer (best block : CommonBlock) : CommonBlock :=
  if best.length < block.length then block else best

/-- The longest block; of several the one that starts first in the left text, then in the right. -/
def longest (left right : List Char) : CommonBlock := (all left right).foldl longer ⟨0, 0, 0⟩

theorem left_lt_of_mem_all {left right : List Char} {block : CommonBlock}
    (found : block ∈ all left right) : block.left < left.length := by
  simp only [all, List.mem_flatMap, List.mem_map, List.mem_range] at found
  obtain ⟨i, inside, j, _, rfl⟩ := found
  exact inside

theorem left_lt_of_foldl {bound : Nat} {blocks : List CommonBlock} {best : CommonBlock}
    (inside : ∀ block ∈ blocks, block.left < bound) (start : 0 < best.length → best.left < bound)
    (found : 0 < (blocks.foldl longer best).length) : (blocks.foldl longer best).left < bound := by
  induction blocks generalizing best with
  | nil => exact start found
  | cons block rest ih =>
      refine ih (fun other mem => inside other (List.mem_cons_of_mem block mem)) ?_ found
      intro _
      unfold longer
      split
      · exact inside block (List.mem_cons_self ..)
      · rename_i kept
        apply start
        simp_all [longer]

theorem longest_left_lt {left right : List Char} (found : 0 < (longest left right).length) :
    (longest left right).left < left.length :=
  left_lt_of_foldl (fun _ => left_lt_of_mem_all) (fun impossible => absurd impossible (by decide))
    found

end CommonBlock

/-- How many characters two texts have in common blocks. -/
def commonLength (left right : List Char) : Nat :=
  let block := CommonBlock.longest left right
  if _found : 0 < block.length then
    commonLength (left.take block.left) (right.take block.right) + block.length +
      commonLength (left.drop (block.left + block.length)) (right.drop (block.right + block.length))
  else 0
termination_by left.length
decreasing_by
  · have := CommonBlock.longest_left_lt _found
    simp only [List.length_take]
    omega
  · have found : 0 < (CommonBlock.longest left right).length := _found
    have := CommonBlock.longest_left_lt found
    simp only [List.length_drop]
    omega

/-- A known text beside a given one. -/
structure Likeness where
  known : String
  /-- The characters in common blocks. -/
  common : Nat
  /-- The characters of both texts. -/
  total : Nat
  deriving DecidableEq, Repr

namespace Likeness

def between (known given : String) : Likeness :=
  let total := known.length + given.length
  -- The shorter text bounds what can be in common blocks.
  if 10 * min known.length given.length < 3 * total then ⟨known, 0, total⟩
  else ⟨known, commonLength known.toList given.toList, total⟩

def isClose (likeness : Likeness) : Bool := 3 * likeness.total ≤ 10 * likeness.common

/-- Whether the first of two is the better one. Where both are as close, the later name is. -/
def precedes (a b : Likeness) : Bool :=
  b.common * a.total < a.common * b.total ∨
    (b.common * a.total = a.common * b.total ∧ b.known ≤ a.known)

/-- The most texts that are suggested. -/
def most : Nat := 3

/-- The known texts that a given one may have been meant for, sorted. -/
def suggestions (known : List String) (given : String) : List String :=
  let close := (known.map (between · given)).filter isClose
  (((close.mergeSort precedes).take most).map (·.known)).mergeSort fun a b => decide (a ≤ b)

end Likeness

end ContainerLogs.Text
