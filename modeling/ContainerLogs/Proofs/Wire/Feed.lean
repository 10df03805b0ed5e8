import ContainerLogs.Wire.Source
import ContainerLogs.Proofs.Running
import ContainerLogs.Proofs.Wire.Integer

/-!
Exact reads. Of a feed that holds enough they bring the bytes that stand in front, however the feed
cuts them, and leave what comes after; of a feed that holds less, and gives all it has, they take
everything and tell how much there was.
-/
namespace ContainerLogs.Feed

variable {σ : Type} [Feed σ]

theorem gather_of_le (wanted missing : Nat) (pieces : List Bytes) (feed : σ)
    (enough : missing ≤ (left feed).length) : ∃ rest,
    gather wanted missing pieces feed =
      .ok (pieces.reverse.flatten ++ (left feed).take missing) rest ∧
      left rest = (left feed).drop missing := by
  fun_induction gather wanted missing pieces feed with
  | case1 pieces feed => exact ⟨feed, by simp⟩
  | case2 missing pieces feed unmet fault rest refused =>
    have some_left : left feed ≠ [] := by
      intro none_left
      simp only [none_left, List.length_nil, Nat.le_zero] at enough
      exact unmet enough
    obtain ⟨piece, after, pulled, -⟩ := pull_progress (Nat.pos_of_ne_zero unmet) some_left
    rw [refused] at pulled
    cases pulled
  | case3 missing pieces feed unmet rest pulled =>
    have some_left : left feed ≠ [] := by
      intro none_left
      simp only [none_left, List.length_nil, Nat.le_zero] at enough
      exact unmet enough
    obtain ⟨piece, after, given, nonempty⟩ := pull_progress (Nat.pos_of_ne_zero unmet) some_left
    rw [pulled] at given
    cases given
    exact absurd rfl nonempty
  | case4 missing pieces feed unmet octet piece rest pulled ih =>
    have split := left_of_pull pulled
    have short := length_of_pull pulled
    have still : missing - (octet :: piece).length ≤ (left rest).length := by
      rw [split, List.length_append] at enough
      omega
    obtain ⟨after, gathered, remains⟩ := ih still
    refine ⟨after, ?_, ?_⟩
    · rw [gathered, split, List.take_append, List.take_of_length_le short]
      simp
    · rw [remains, split, List.drop_append, List.drop_eq_nil_of_le short, List.nil_append]

theorem readExact_of_left {feed : σ} {bytes tail : Bytes} (h : left feed = bytes ++ tail) :
    ∃ rest, readExact bytes.length feed = .ok bytes rest ∧ left rest = tail := by
  have enough : bytes.length ≤ (left feed).length := by
    rw [h, List.length_append]
    omega
  obtain ⟨rest, gathered, remains⟩ := gather_of_le bytes.length bytes.length [] feed enough
  refine ⟨rest, ?_, ?_⟩
  · rw [readExact, gathered, h]
    simp
  · rw [remains, h, List.drop_left]

theorem readLong_of_left {feed : σ} {n : Int} {tail : Bytes}
    (inRange : Wire.fits Wire.longWidth n = true) (h : left feed = Wire.long n ++ tail) :
    ∃ rest, readLong feed = .ok n rest ∧ left rest = tail := by
  obtain ⟨rest, exact, remains⟩ := readExact_of_left h
  rw [Wire.length_long] at exact
  refine ⟨rest, ?_, remains⟩
  show (readExact 8 >>= fun bytes => pure (Wire.signedOf bytes)) feed = _
  rw [Reading.bind_eq_ok]
  exact ⟨_, _, exact, Reading.pure_eq_ok.2 ⟨Wire.signedOf_long inRange, rfl⟩⟩

theorem readIntOrEnd_of_left {feed : σ} {n : Int} {tail : Bytes}
    (inRange : Wire.fits Wire.intWidth n = true) (h : left feed = Wire.int n ++ tail) :
    ∃ rest, readIntOrEnd feed = .ok (some n) rest ∧ left rest = tail := by
  have some_left : left feed ≠ [] := by
    intro none_left
    have lengths := congrArg List.length (none_left.symm.trans h)
    simp only [List.length_nil, List.length_append, Wire.length_int] at lengths
    omega
  obtain ⟨first, between, pulled, nonempty⟩ :=
    pull_progress (show 0 < Wire.intWidth by decide) some_left
  have short : first.length ≤ (Wire.int n).length := by
    rw [Wire.length_int]
    exact length_of_pull pulled
  have split := left_of_pull pulled
  -- What the first pull lacks of the four bytes stands in front of what it left.
  have front : first = (Wire.int n).take first.length := by
    have taken := congrArg (List.take first.length) (split.symm.trans h)
    rw [List.take_left, List.take_append_of_le_length short] at taken
    exact taken
  have back : left between = (Wire.int n).drop first.length ++ tail := by
    have dropped := congrArg (List.drop first.length) (split.symm.trans h)
    rw [List.drop_left, List.drop_append_of_le_length short] at dropped
    exact dropped
  obtain ⟨rest, exact, remains⟩ := readExact_of_left back
  rw [List.length_drop, Wire.length_int] at exact
  refine ⟨rest, ?_, remains⟩
  unfold readIntOrEnd
  rw [Reading.bind_eq_ok]
  refine ⟨_, _, pulled, ?_⟩
  rw [if_neg (by simpa using nonempty), Reading.bind_eq_ok]
  refine ⟨_, _, exact, Reading.pure_eq_ok.2 ⟨?_, rfl⟩⟩
  have whole : first ++ (Wire.int n).drop first.length = Wire.int n := by
    conv_lhs => rw [front]
    rw [List.length_take_of_le short, List.take_append_drop]
  rw [whole, Wire.signedOf_int inRange]

theorem readInt_of_left {feed : σ} {n : Int} {tail : Bytes}
    (inRange : Wire.fits Wire.intWidth n = true) (h : left feed = Wire.int n ++ tail) :
    ∃ rest, readInt feed = .ok n rest ∧ left rest = tail := by
  obtain ⟨rest, exact, remains⟩ := readExact_of_left h
  rw [Wire.length_int] at exact
  refine ⟨rest, ?_, remains⟩
  show (readExact 4 >>= fun bytes => pure (Wire.signedOf bytes)) feed = _
  rw [Reading.bind_eq_ok]
  exact ⟨_, _, exact, Reading.pure_eq_ok.2 ⟨Wire.signedOf_int inRange, rfl⟩⟩

theorem readLength_of_left {feed : σ} {n : Nat} {tail : Bytes} (what : String)
    (inRange : Wire.fits Wire.intWidth n = true) (h : left feed = Wire.int n ++ tail) :
    ∃ rest, readLength what feed = .ok n rest ∧ left rest = tail := by
  obtain ⟨rest, integer, remains⟩ := readInt_of_left inRange h
  exact ⟨rest, Running.bind_of_ok integer _, remains⟩

/-- Feeds of a kind refuse no demand for bytes, and stay of that kind. -/
def Willing (kind : σ → Prop) : Prop :=
  ∀ feed demand, kind feed → 0 < demand → ∃ piece rest, pull demand feed = .ok piece rest ∧ kind rest

/-- Feeds of a kind give of what they have as much as is asked for, at once. -/
def Prompt (kind : σ → Prop) : Prop :=
  ∀ feed demand, kind feed → 0 < demand →
    ∃ rest, pull demand feed = .ok ((left feed).take demand) rest ∧ kind rest

theorem Prompt.willing {kind : σ → Prop} (prompt : Prompt kind) : Willing kind := by
  intro feed demand here positive
  exact ⟨_, prompt feed demand here positive⟩

theorem Prompt.bytes : Prompt fun _ : Bytes => True := fun _ _ _ _ => ⟨_, rfl, trivial⟩

namespace Willing

variable {kind : σ → Prop} {before after : σ} (willing : Willing kind) (here : kind before)
include willing here

private theorem of_pull {demand : Nat} {piece : Bytes} (positive : 0 < demand)
    (pulled : pull demand before = .ok piece after) : kind after := by
  obtain ⟨_, rest, given, there⟩ := willing before demand here positive
  rw [pulled] at given
  cases given
  exact there

private theorem of_gather {wanted missing : Nat} {pieces : List Bytes} {bytes : Bytes}
    (gathered : gather wanted missing pieces before = .ok bytes after) : kind after := by
  fun_induction gather wanted missing pieces before with
  | case1 => cases gathered; exact here
  | case2 => cases gathered
  | case3 => cases gathered
  | case4 missing pieces feed unmet octet piece rest pulled ih =>
    exact ih (willing.of_pull here (Nat.pos_of_ne_zero unmet) pulled) gathered

theorem of_readExact {wanted : Nat} {bytes : Bytes}
    (read : readExact wanted before = .ok bytes after) : kind after :=
  willing.of_gather here read

theorem of_readLong {n : Int} (read : readLong before = .ok n after) : kind after := by
  obtain ⟨bytes, between, exact, returned⟩ := Reading.bind_eq_ok.1 read
  obtain ⟨-, rfl⟩ := Reading.pure_eq_ok.1 returned
  exact willing.of_readExact here exact

theorem of_readInt {n : Int} (read : readInt before = .ok n after) : kind after := by
  obtain ⟨bytes, between, exact, returned⟩ := Reading.bind_eq_ok.1 read
  obtain ⟨-, rfl⟩ := Reading.pure_eq_ok.1 returned
  exact willing.of_readExact here exact

theorem of_readLength {what : String} {n : Nat} (read : readLength what before = .ok n after) :
    kind after := by
  obtain ⟨length, between, integer, returned⟩ := Reading.bind_eq_ok.1 read
  have there := willing.of_readInt here integer
  cases length with
  | ofNat length =>
    obtain ⟨-, rfl⟩ := Reading.pure_eq_ok.1 returned
    exact there
  | negSucc => exact absurd returned Reading.throw_ne_ok

theorem of_readIntOrEnd {n? : Option Int} (read : readIntOrEnd before = .ok n? after) :
    kind after := by
  obtain ⟨first, between, pulled, continued⟩ := Reading.bind_eq_ok.1 read
  have there := willing.of_pull here (by decide) pulled
  split at continued
  · obtain ⟨-, rfl⟩ := Reading.pure_eq_ok.1 continued
    exact there
  · obtain ⟨others, between', exact, returned⟩ := Reading.bind_eq_ok.1 continued
    obtain ⟨-, rfl⟩ := Reading.pure_eq_ok.1 returned
    exact willing.of_readExact there exact

theorem readIntOrEnd_at_end (nothing : left before = []) :
    ∃ rest, readIntOrEnd before = .ok none rest ∧ left rest = [] ∧ kind rest := by
  obtain ⟨piece, rest, pulled, there⟩ := willing before Wire.intWidth here (by decide)
  have split := left_of_pull pulled
  rw [nothing] at split
  obtain ⟨rfl, remains⟩ := List.append_eq_nil_iff.1 split.symm
  exact ⟨rest, Running.bind_of_ok pulled _, remains, there⟩

end Willing

section Short

variable {kind : σ → Prop}

private theorem gather_of_short (willing : Willing kind) (wanted missing : Nat)
    (pieces : List Bytes) (feed : σ) (here : kind feed) (short : (left feed).length < missing) :
    ∃ rest, gather wanted missing pieces feed =
      .error (.streamEnded wanted (wanted - (missing - (left feed).length))) rest ∧
      left rest = [] ∧ kind rest := by
  fun_induction gather wanted missing pieces feed with
  | case1 => cases short
  | case2 missing pieces feed unmet fault rest refused =>
    obtain ⟨piece, after, given, -⟩ := willing feed missing here (Nat.pos_of_ne_zero unmet)
    rw [refused] at given
    cases given
  | case3 missing pieces feed unmet rest pulled =>
    obtain ⟨piece, after, given, there⟩ := willing feed missing here (Nat.pos_of_ne_zero unmet)
    rw [pulled] at given
    cases given
    have none_left : left feed = [] := by
      refine Decidable.byContradiction fun some_left => ?_
      obtain ⟨piece, after, given, nonempty⟩ :=
        pull_progress (Nat.pos_of_ne_zero unmet) some_left
      rw [pulled] at given
      cases given
      exact nonempty rfl
    have same := left_of_pull pulled
    rw [none_left] at same ⊢
    exact ⟨rest, rfl, same.symm, there⟩
  | case4 missing pieces feed unmet octet piece rest pulled ih =>
    obtain ⟨_, after, given, there⟩ := willing feed missing here (Nat.pos_of_ne_zero unmet)
    rw [pulled] at given
    cases given
    have split := congrArg List.length (left_of_pull pulled)
    rw [List.length_append] at split
    obtain ⟨ended, gathered, nothing, still⟩ := ih there (by omega)
    refine ⟨ended, ?_, nothing, still⟩
    have given_eq : missing - (octet :: piece).length - (left rest).length =
        missing - (left feed).length := by omega
    rw [gathered, given_eq]

theorem readExact_of_short (willing : Willing kind) {wanted : Nat} {feed : σ} (here : kind feed)
    (short : (left feed).length < wanted) : ∃ rest,
    readExact wanted feed = .error (.streamEnded wanted (left feed).length) rest ∧
      left rest = [] ∧ kind rest := by
  obtain ⟨rest, gathered, nothing, there⟩ :=
    gather_of_short willing wanted wanted [] feed here short
  rw [Nat.sub_sub_self (Nat.le_of_lt short)] at gathered
  exact ⟨rest, gathered, nothing, there⟩

theorem readLong_of_short (willing : Willing kind) {feed : σ} (here : kind feed)
    (short : (left feed).length < Wire.longWidth) : ∃ rest,
    readLong feed = .error (.streamEnded Wire.longWidth (left feed).length) rest ∧
      left rest = [] ∧ kind rest := by
  obtain ⟨rest, failed, nothing, there⟩ := readExact_of_short willing here short
  exact ⟨rest, Running.bind_of_error failed _, nothing, there⟩

/-- A first integer that is cut short is missed by as much as the first piece of it left to read. -/
theorem readIntOrEnd_of_short (willing : Willing kind) {feed between : σ} {piece : Bytes}
    (here : kind feed) (pulled : pull Wire.intWidth feed = .ok piece between) (nonempty : piece ≠ [])
    (short : (left feed).length < Wire.intWidth) : ∃ rest,
    readIntOrEnd feed =
      .error (.streamEnded (Wire.intWidth - piece.length) (left between).length) rest ∧
      left rest = [] ∧ kind rest := by
  have there := willing.of_pull here (by decide) pulled
  have lacking : (left between).length < Wire.intWidth - piece.length := by
    rw [left_of_pull pulled, List.length_append] at short
    omega
  obtain ⟨rest, failed, nothing, there'⟩ := readExact_of_short willing there lacking
  refine ⟨rest, ?_, nothing, there'⟩
  unfold readIntOrEnd
  rw [Running.bind_of_ok pulled, if_neg (by simpa using nonempty)]
  exact Running.bind_of_error failed _

end Short

end ContainerLogs.Feed

namespace ContainerLogs.Source

/-- A file gives what it has. -/
theorem willing : Feed.Willing fun _ : Source => True := fun _ _ _ _ => ⟨_, _, rfl, trivial⟩

theorem readIntOrEnd_of_short {source : Source} (some_left : source.rest ≠ [])
    (short : source.rest.length < Wire.intWidth) : ∃ after,
    Feed.readIntOrEnd source =
      .error (.streamEnded (Wire.intWidth - source.rest.length) 0) after ∧ after.rest = [] := by
  let behind := (source.read Wire.intWidth).2
  have pulled : Feed.pull Wire.intWidth source = .ok source.rest behind := by
    change EStateM.Result.ok (source.read Wire.intWidth).1 behind = _
    rw [Source.read, take_fst, List.take_of_length_le (Nat.le_of_lt short)]
  have nothing : Feed.left behind = [] := by
    change (source.read Wire.intWidth).2.rest = []
    rw [Source.read, rest_take, List.drop_eq_nil_of_le (Nat.le_of_lt short)]
  obtain ⟨after, failed, ended, -⟩ :=
    Feed.readIntOrEnd_of_short willing trivial pulled some_left short
  rw [nothing, List.length_nil] at failed
  exact ⟨after, failed, ended⟩

end ContainerLogs.Source

namespace ContainerLogs.PiecewiseBytes

/-- Whatever the bounds on its pieces are, bytes at hand are never refused. -/
theorem willing : Feed.Willing fun _ : PiecewiseBytes => True := fun _ _ _ _ => ⟨_, _, rfl, trivial⟩

end ContainerLogs.PiecewiseBytes
