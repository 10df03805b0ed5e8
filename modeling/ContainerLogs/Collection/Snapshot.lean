import ContainerLogs.Collection.Surroundings

/-!
Snapshots of open files: at most as many bytes as the file had when its size was taken, read piece by
piece while others may change what the file holds.
-/
namespace ContainerLogs.Snapshot

/-- The most bytes that one read asks for. -/
def chunkBytes : Nat := 65536

/-- What reads of an open file give: after how many others, from which place and how much is asked
for. A read may give less than that; it gives nothing where the file ends. -/
abbrev Reads := Nat → Nat → Nat → Except Refusal Bytes

/-- What was put aside of a file, and how much was counted of it. -/
structure Spool where
  count : Nat := 0
  bytes : Bytes := []
  deriving DecidableEq, Repr

def Spool.add (spool : Spool) (chunk : Bytes) : Spool :=
  ⟨spool.count + chunk.length, spool.bytes ++ chunk⟩

/-- Goes on copying until as much is counted as is wanted or a read gives nothing: how many reads
there were in the end, and what was put aside. -/
def copyOn (reads : Reads) (limit turn : Nat) (spool : Spool) : Nat × Except Refusal Spool :=
  if spool.count < limit then
    match reads turn spool.count (min chunkBytes (limit - spool.count)) with
    | .error refusal => (turn + 1, .error refusal)
    | .ok [] => (turn + 1, .ok spool)
    | .ok (byte :: bytes) => copyOn reads limit (turn + 1) (spool.add (byte :: bytes))
  else (turn, .ok spool)
termination_by limit - spool.count
decreasing_by simp only [Spool.add, List.length_cons]; omega

/-- Copies at most so many bytes of an open file. -/
def copy (reads : Reads) (limit : Nat) : Nat × Except Refusal Spool := copyOn reads limit 0 {}

/-- What a read gives of a file that holds some content. Where a failure is given, reads fail from
some place on and give nothing beyond it. -/
def readAt (content : Bytes) (failure : Option (Errno × Nat)) (place demand : Nat) :
    Except Refusal Bytes :=
  match failure with
  | none => .ok ((content.drop place).take demand)
  | some (errno, given) =>
      if given ≤ place then .error (.bare errno)
      else .ok ((content.drop place).take (min demand (given - place)))

/-- Reads of an open file, before each of which others may act. -/
def readsAmid (schedule : Schedule) (failure : Option (Errno × Nat)) (number : Nat)
    (around : Surroundings) : Reads := fun turn =>
  readAt ((around.awaitTimes schedule (turn + 1)).tree.content number) failure

/-- Reads an open file up to a size, with the changes that befall its first reading. -/
def readOpen (schedule : Schedule) (event : ReadEvent) (number size : Nat) (around : Surroundings) :
    Surroundings × Except Refusal Bytes :=
  match Change.applyAll around.tree event.changes with
  | (tree, some refusal) => ({ around with tree }, .error refusal)
  | (tree, none) =>
      let begun := { around with tree }
      let (turns, copied) := copy (readsAmid schedule event.failure number begun) size
      (begun.awaitTimes schedule turns, copied.map (·.bytes))

/-- Takes a snapshot of an open file. Others may act before its size is taken and before each read of
it; an empty file is never read. -/
def take (schedule : Schedule) (name : String) (number : Nat) (around : Surroundings) :
    Surroundings × Except Refusal Bytes :=
  let sized := around.await schedule
  let size := (sized.tree.content number).length
  if size = 0 then (sized, .ok [])
  else readOpen schedule (schedule.eventFor name) number size sized

end ContainerLogs.Snapshot
