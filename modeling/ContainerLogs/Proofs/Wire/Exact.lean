import ContainerLogs.Proofs.Wire.Feed

/-!
What is read does not depend on the pieces that it comes in. An exact read takes the bytes in front and
leaves the others, or takes all there are and tells their number; so an integer is read as it was
written, and written as it was read.
-/
namespace ContainerLogs

/-- What an exact read of a feed comes to. -/
inductive Feed.ReadExactly {σ : Type} [Feed σ] (wanted : Nat) (feed : σ) :
    EStateM.Result ReadFault σ Bytes → Prop where
  | whole {rest : σ} (enough : wanted ≤ (left feed).length)
      (others : left rest = (left feed).drop wanted) :
      ReadExactly wanted feed (.ok ((left feed).take wanted) rest)
  | ended {rest : σ} (short : (left feed).length < wanted) (nothing : left rest = []) :
      ReadExactly wanted feed (.error (.streamEnded wanted (left feed).length) rest)

/-- A feed that refuses nothing is read exactly. -/
private theorem Feed.readExactly {σ : Type} [Feed σ] {kind : σ → Prop} (willing : Willing kind)
    {feed : σ} (here : kind feed) (wanted : Nat) :
    ReadExactly wanted feed (readExact wanted feed) := by
  by_cases short : (left feed).length < wanted
  · obtain ⟨rest, failed, nothing, -⟩ := readExact_of_short willing here short
    rw [failed]
    exact .ended short nothing
  · have enough : wanted ≤ (left feed).length := Nat.le_of_not_lt short
    obtain ⟨rest, gathered, others⟩ := gather_of_le wanted wanted [] feed enough
    rw [readExact, gathered]
    exact .whole enough others

namespace Wire

/-- The numbers of a width, from the least to the largest. -/
private theorem fits_iff {width : Nat} {limit : Int} (half_eq : (half width : Int) = limit)
    {n : Int} :
    fits width n = true ↔ -limit ≤ n ∧ n ≤ limit - 1 := by
  simp only [fits, half_eq, Bool.decide_and, Bool.and_eq_true, decide_eq_true_eq]
  omega

/-- Writing numbers in a width, from the least to the largest below a limit, and reading them are
inverse to each other. -/
structure Inverse (width : Nat) (limit : Int) (write : Int → Except OutOfRange Bytes)
    (read : Reading PiecewiseBytes Int) : Prop where
  /-- What was written is read, and nothing of what comes behind it. -/
  read_written (n : Int) (least : -limit ≤ n) (largest : n ≤ limit - 1) :
    ∃ bytes, write n = .ok bytes ∧ ∀ (feed : PiecewiseBytes) (tail : Bytes),
      feed.rest = bytes ++ tail → ∃ after, read feed = .ok n after ∧ after.rest = tail
  /-- As many bytes as the width has are written again as they were. -/
  written_read (feed : PiecewiseBytes) (size : feed.rest.length = width) :
    ∃ n after, read feed = .ok n after ∧ after.rest = [] ∧ write n = .ok feed.rest
  /-- There are no bytes for other numbers. -/
  refused (n : Int) (beyond : n < -limit ∨ limit - 1 < n) : write n = .error ⟨width, n⟩

private theorem inverse {width : Nat} {limit : Int} (positive : 0 < width)
    (half_eq : (half width : Int) = limit) : Inverse width limit (signed? width)
      (do pure (signedOf (← Feed.readExact width))) := by
  have exact (feed : PiecewiseBytes) {bytes tail : Bytes} (size : bytes.length = width)
      (front : feed.rest = bytes ++ tail) : ∃ after,
      (do pure (signedOf (← Feed.readExact width)) : Reading PiecewiseBytes Int) feed =
        .ok (signedOf bytes) after ∧ after.rest = tail := by
    have left_eq : Feed.left feed = bytes ++ tail := front
    obtain ⟨after, read, others⟩ := Feed.readExact_of_left left_eq
    rw [size] at read
    exact ⟨after, Running.bind_of_ok read _, others⟩
  constructor
  · intro n least largest
    have inRange := (fits_iff half_eq).2 ⟨least, largest⟩
    refine ⟨signed width n, by rw [signed?, if_pos inRange], fun feed tail front => ?_⟩
    have read := exact feed (length_signed width n) front
    rwa [signedOf_signed positive inRange] at read
  · intro feed size
    obtain ⟨after, read, others⟩ := exact feed size (List.append_nil _).symm
    have nonempty : feed.rest ≠ [] := List.length_pos_iff.1 (size ▸ positive)
    obtain ⟨inRange, same⟩ := signed_signedOf nonempty
    rw [size] at inRange same
    exact ⟨_, after, read, others, by rw [signed?, if_pos inRange, same]⟩
  · intro n beyond
    have outside : ¬ fits width n = true := by
      rw [fits_iff half_eq]
      omega
    rw [signed?, if_neg outside]

/-- Whatever pieces bytes come in, an exact read is decided by the bytes alone: it brings those that
are wanted, or takes all there are and tells how many were wanted and how many there were. So integers
of four and of eight bytes are read as they were written and written as they were read. -/
theorem exact_reads :
    (∀ (feed : PiecewiseBytes) (wanted : Nat),
      Feed.ReadExactly wanted feed (Feed.readExact wanted feed)) ∧
      (∀ wanted given : Nat, (ReadFault.streamEnded wanted given).isPremature = true ∧
        (ReadFault.streamEnded wanted given).message = "Expected " ++ Text.decimal wanted ++
          " bytes but the stream ended after " ++ Text.decimal given) ∧
      Inverse 4 (2 ^ 31) int? Feed.readInt ∧ Inverse 8 (2 ^ 63) long? Feed.readLong := by
  refine ⟨fun feed wanted => ?_, fun wanted given => ⟨rfl, rfl⟩, ?_, ?_⟩
  · exact Feed.readExactly PiecewiseBytes.willing trivial wanted
  · exact inverse (by decide) rfl
  · exact inverse (by decide) rfl

end Wire

end ContainerLogs
