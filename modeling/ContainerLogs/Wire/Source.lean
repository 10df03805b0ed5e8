import ContainerLogs.Wire.Feed

/-!
A file that is read through a buffer while others may change it. A demand takes what waits in the
buffer first; of what is lacking, some is read past the buffer, and the last part by way of it,
which fills it as far as the file goes. Bytes that wait in the buffer no longer follow the file, all
others do.
-/
namespace ContainerLogs

structure Source where
  /-- The bytes from the reading position on. -/
  rest : Bytes
  position : Nat := 0
  /-- How many bytes of the rest wait in the buffer. -/
  ahead : Nat := 0
  /-- The position of the first byte that was put into the buffer. -/
  bufferStart : Nat := 0
  deriving DecidableEq, Repr

namespace Source

def bufferBytes : Nat := 4096

/-- Takes bytes off the front. `past` tells how many of those that the buffer lacks are read past
it. -/
def take (past : Nat → Nat) (demand : Nat) (source : Source) : Bytes × Source :=
  let piece := source.rest.take demand
  let moved := { source with
    rest := source.rest.drop demand
    position := source.position + piece.length }
  if demand ≤ source.ahead then (piece, { moved with ahead := source.ahead - demand })
  else
    let lacking := demand - source.ahead
    let direct := past lacking
    if direct = lacking then (piece, { moved with ahead := 0 })
    else
      let start := source.ahead + direct
      let filled := ((source.rest.drop start).take bufferBytes).length
      (piece, { moved with
        ahead := filled - (lacking - direct)
        bufferStart := source.position + start })

/-- Reads whole blocks past the buffer. -/
def read (demand : Nat) (source : Source) : Bytes × Source :=
  source.take (fun lacking => lacking - lacking % bufferBytes) demand

/-- Reads past the buffer what is larger than it. -/
def readLarge (demand : Nat) (source : Source) : Bytes × Source :=
  source.take (fun lacking => if bufferBytes < lacking then lacking else 0) demand

/-- Goes back to an earlier state. The buffer is kept if it reaches back that far. -/
def rewound (source earlier : Source) : Source :=
  if 0 < source.ahead ∧ source.bufferStart ≤ earlier.position then
    { source with
      rest := earlier.rest
      position := earlier.position
      ahead := source.ahead + (source.position - earlier.position) }
  else { earlier with ahead := 0 }

/-- Takes notice of what the file holds by now. -/
def refresh (content : Bytes) (source : Source) : Source :=
  { source with
    rest := source.rest.take source.ahead ++ content.drop (source.position + source.ahead) }

@[simp] theorem take_fst (past : Nat → Nat) (demand : Nat) (source : Source) :
    (source.take past demand).1 = source.rest.take demand := by
  simp only [take]
  split
  · rfl
  · split <;> rfl

@[simp] theorem rest_take (past : Nat → Nat) (demand : Nat) (source : Source) :
    (source.take past demand).2.rest = source.rest.drop demand := by
  simp only [take]
  split
  · rfl
  · split <;> rfl

@[simp] theorem rest_rewound (source earlier : Source) :
    (source.rewound earlier).rest = earlier.rest := by
  unfold rewound
  split <;> rfl

instance : Feed Source where
  left := rest
  pull demand source := .ok (source.read demand).1 (source.read demand).2
  left_of_pull := by
    intro demand source piece rest pulled
    cases pulled
    simp [read]
  left_of_refusal := by
    intro demand source fault rest refused
    cases refused
  length_of_pull := by
    intro demand source piece rest pulled
    cases pulled
    simp only [read, take_fst, List.length_take, Nat.min_le_left]
  pull_progress := by
    intro demand source positive some_left
    refine ⟨_, _, rfl, ?_⟩
    simpa [read, List.take_eq_nil_iff, Nat.ne_of_gt positive] using some_left

end Source

end ContainerLogs
