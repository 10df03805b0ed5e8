import ContainerLogs.Wire.Fault
import ContainerLogs.Wire.Integer

/-!
Feeds: anything that hands out bytes in pieces of its own choosing. A feed owns up to the bytes it
still has to give, and its laws say that pieces are taken off their front, that a positive demand
brings at least one byte while any are left, and that a refusal takes nothing. Exact reads put the
pieces together, so their outcome does not depend on how a feed cuts them.
-/
namespace ContainerLogs

/-- Programs that read from a feed; what they have taken stays taken when they fail. -/
abbrev Reading (σ α : Type) := EStateM ReadFault σ α

namespace Reading

theorem bind_eq_ok {σ α β : Type} {first : Reading σ α} {next : α → Reading σ β} {before after : σ}
    {b : β} : (first >>= next) before = .ok b after ↔
      ∃ a between, first before = .ok a between ∧ next a between = .ok b after := by
  simp only [bind, EStateM.bind]
  cases first before with
  | ok a between =>
      constructor
      · exact fun returned => ⟨a, between, rfl, returned⟩
      · rintro ⟨_, _, ⟨⟩, returned⟩
        exact returned
  | error fault between => simp

theorem pure_eq_ok {σ α : Type} {a b : α} {before after : σ} :
    (pure a : Reading σ α) before = .ok b after ↔ a = b ∧ before = after := by
  simp [pure, EStateM.pure]

theorem throw_ne_ok {σ α : Type} {fault : ReadFault} {b : α} {before after : σ} :
    (throw fault : Reading σ α) before ≠ .ok b after := by
  nofun

end Reading

class Feed (σ : Type) where
  /-- The bytes still to be had. -/
  left : σ → Bytes
  pull : Nat → Reading σ Bytes
  left_of_pull : ∀ {demand feed piece rest}, pull demand feed = .ok piece rest →
    left feed = piece ++ left rest
  left_of_refusal : ∀ {demand feed fault rest}, pull demand feed = .error fault rest →
    left rest = left feed
  length_of_pull : ∀ {demand feed piece rest}, pull demand feed = .ok piece rest →
    piece.length ≤ demand
  pull_progress : ∀ {demand feed}, 0 < demand → left feed ≠ [] →
    ∃ piece rest, pull demand feed = .ok piece rest ∧ piece ≠ []

namespace Feed

variable {σ : Type} [Feed σ]

/-- Reads until nothing is missing; the pieces so far are held in reverse. -/
def gather (wanted missing : Nat) (pieces : List Bytes) (feed : σ) :
    EStateM.Result ReadFault σ Bytes :=
  if missing = 0 then .ok pieces.reverse.flatten feed
  else match pull missing feed with
    | .error fault rest => .error fault rest
    | .ok [] rest => .error (.streamEnded wanted (wanted - missing)) rest
    | .ok (octet :: piece) rest =>
        gather wanted (missing - (octet :: piece).length) ((octet :: piece) :: pieces) rest
termination_by missing
decreasing_by simp only [List.length_cons]; omega

/-- Exactly as many bytes as are wanted. -/
def readExact (wanted : Nat) : Reading σ Bytes := gather wanted wanted []

def readInt : Reading σ Int := do pure (Wire.signedOf (← readExact Wire.intWidth))

def readLong : Reading σ Int := do pure (Wire.signedOf (← readExact Wire.longWidth))

/-- A four-byte length, which must not be negative. -/
def readLength (what : String) : Reading σ Nat := do
  match ← readInt with
  | .ofNat n => pure n
  | n => throw (.negativeLength what n)

/-- The integer that starts an item or a record, if the feed has not come to its end before it. -/
def readIntOrEnd : Reading σ (Option Int) := do
  let first ← pull Wire.intWidth
  if first.isEmpty then pure none
  else
    let lacking := Wire.intWidth - first.length
    let others ← readExact lacking
    pure (some (Wire.signedOf (first ++ others)))

theorem left_of_gather {wanted missing : Nat} {pieces : List Bytes} {before after : σ}
    {bytes : Bytes} (gathered : gather wanted missing pieces before = .ok bytes after) :
    ∃ last : Bytes, bytes = pieces.reverse.flatten ++ last ∧ last.length = missing ∧
      left before = last ++ left after := by
  fun_induction gather wanted missing pieces before with
  | case1 => cases gathered; exact ⟨[], by simp⟩
  | case2 => cases gathered
  | case3 => cases gathered
  | case4 missing pieces feed nonzero octet piece rest pulled ih =>
      obtain ⟨last, rfl, length, split⟩ := ih gathered
      have short := length_of_pull pulled
      refine ⟨octet :: piece ++ last, by simp, ?_, ?_⟩
      · simp only [List.length_append] at *
        omega
      · rw [left_of_pull pulled, split, List.append_assoc]

theorem left_of_readExact {wanted : Nat} {before after : σ} {bytes : Bytes}
    (read : readExact wanted before = .ok bytes after) :
    bytes.length = wanted ∧ left before = bytes ++ left after := by
  obtain ⟨last, rfl, length, split⟩ := left_of_gather read
  exact ⟨by simpa using length, by simpa using split⟩

/-- Reading does not add to what a feed holds. -/
theorem size_of_readExact {wanted : Nat} {before after : σ} {bytes : Bytes}
    (read : readExact wanted before = .ok bytes after) :
    (left after).length + wanted = (left before).length := by
  obtain ⟨length, split⟩ := left_of_readExact read
  simp [split, length, Nat.add_comm]

theorem size_of_readInt {before after : σ} {n : Int} (read : readInt before = .ok n after) :
    (left after).length + 4 = (left before).length := by
  obtain ⟨bytes, between, exact, returned⟩ := Reading.bind_eq_ok.1 read
  obtain ⟨_, rfl⟩ := Reading.pure_eq_ok.1 returned
  exact size_of_readExact exact

theorem size_of_readLong {before after : σ} {n : Int} (read : readLong before = .ok n after) :
    (left after).length + 8 = (left before).length := by
  obtain ⟨bytes, between, exact, returned⟩ := Reading.bind_eq_ok.1 read
  obtain ⟨_, rfl⟩ := Reading.pure_eq_ok.1 returned
  exact size_of_readExact exact

theorem size_of_readLength {what : String} {before after : σ} {n : Nat}
    (read : readLength what before = .ok n after) :
    (left after).length + 4 = (left before).length := by
  obtain ⟨length, between, integer, returned⟩ := Reading.bind_eq_ok.1 read
  have size := size_of_readInt integer
  split at returned
  · obtain ⟨_, rfl⟩ := Reading.pure_eq_ok.1 returned
    exact size
  · exact absurd returned Reading.throw_ne_ok

theorem size_of_readIntOrEnd {before after : σ} {n : Int}
    (read : readIntOrEnd before = .ok (some n) after) :
    (left after).length + 4 ≤ (left before).length := by
  obtain ⟨first, between, pulled, continued⟩ := Reading.bind_eq_ok.1 read
  split at continued
  · exact absurd (Reading.pure_eq_ok.1 continued).1 (by simp)
  · obtain ⟨others, between', exact, returned⟩ := Reading.bind_eq_ok.1 continued
    obtain ⟨_, rfl⟩ := Reading.pure_eq_ok.1 returned
    have size := size_of_readExact exact
    have short := length_of_pull pulled
    rw [left_of_pull pulled, List.length_append]
    simp only [Wire.intWidth] at *
    omega

end Feed

/-- Bytes at hand come as demanded. -/
instance : Feed Bytes where
  left := id
  pull demand feed := .ok (feed.take demand) (feed.drop demand)
  left_of_pull := by
    intro demand feed piece rest pulled
    cases pulled
    exact (List.take_append_drop demand feed).symm
  left_of_refusal := by
    intro demand feed fault rest refused
    cases refused
  length_of_pull := by
    intro demand feed piece rest pulled
    cases pulled
    exact List.length_take_le demand feed
  pull_progress := by
    intro demand feed positive some_left
    refine ⟨_, _, rfl, ?_⟩
    simpa [List.take_eq_nil_iff, Nat.ne_of_gt positive] using some_left

/-- Bytes handed out in pieces, the nth of at most one byte more than the nth bound. -/
structure PiecewiseBytes where
  rest : Bytes
  bounds : Nat → Option Nat
  served : Nat := 0

namespace PiecewiseBytes

/-- The longest piece that is given on a demand. -/
def allowance (feed : PiecewiseBytes) (demand : Nat) : Nat :=
  match feed.bounds feed.served with
  | none => demand
  | some bound => min demand (bound + 1)

instance : Feed PiecewiseBytes where
  left := rest
  pull demand feed :=
    let size := feed.allowance demand
    .ok (feed.rest.take size) { feed with rest := feed.rest.drop size, served := feed.served + 1 }
  left_of_pull := by
    intro demand feed piece rest pulled
    cases pulled
    exact (List.take_append_drop _ feed.rest).symm
  left_of_refusal := by
    intro demand feed fault rest refused
    cases refused
  length_of_pull := by
    intro demand feed piece rest pulled
    cases pulled
    refine Nat.le_trans (List.length_take_le _ _) ?_
    unfold allowance
    split <;> omega
  pull_progress := by
    intro demand feed positive some_left
    refine ⟨_, _, rfl, ?_⟩
    have allowed : feed.allowance demand ≠ 0 := by
      unfold allowance
      split <;> omega
    simpa [List.take_eq_nil_iff, allowed] using some_left

end PiecewiseBytes

end ContainerLogs
