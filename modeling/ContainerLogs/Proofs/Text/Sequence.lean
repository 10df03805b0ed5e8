import ContainerLogs.Proofs.Text.WellFormed

/-!
The well-formed sequences of octets, told by the ranges that their octets lie in, one sequence for
each character. Strict decoding accepts exactly the bytes that fall into such sequences. Forms that are
longer than need be, surrogates, numbers beyond the last character and sequences that break off are
flaws: wherever one of them stands, the bytes are not well formed.
-/
namespace ContainerLogs.Text.Utf8

/-- An octet that goes on with a sequence. -/
def IsTail (octet : UInt8) : Prop := 0x80 ≤ octet.toNat ∧ octet.toNat ≤ 0xBF

instance (octet : UInt8) : Decidable (IsTail octet) := inferInstanceAs (Decidable (_ ∧ _))

/-- The sequences of one character. The range of the second octet leaves out the longer forms, the
surrogates and what lies beyond the last character. -/
inductive Sequence : Bytes → Prop where
  | one {a : UInt8} (small : a.toNat ≤ 0x7F) : Sequence [a]
  | two {a b : UInt8} (above : 0xC2 ≤ a.toNat) (below : a.toNat ≤ 0xDF) (second : IsTail b) :
      Sequence [a, b]
  | three {a b c : UInt8} (above : 0xE0 ≤ a.toNat) (below : a.toNat ≤ 0xEF) (second : IsTail b)
      (shortest : a.toNat = 0xE0 → 0xA0 ≤ b.toNat) (noSurrogate : a.toNat = 0xED → b.toNat ≤ 0x9F)
      (third : IsTail c) : Sequence [a, b, c]
  | four {a b c d : UInt8} (above : 0xF0 ≤ a.toNat) (below : a.toNat ≤ 0xF4) (second : IsTail b)
      (shortest : a.toNat = 0xF0 → 0x90 ≤ b.toNat) (inRange : a.toNat = 0xF4 → b.toNat ≤ 0x8F)
      (third : IsTail c) (fourth : IsTail d) : Sequence [a, b, c, d]

/-- Bytes that fall into sequences. -/
inductive WellFormed : Bytes → Prop where
  | nil : WellFormed []
  | append {front back : Bytes} (first : Sequence front) (others : WellFormed back) :
      WellFormed (front ++ back)

private theorem isTail_ofNat {k : Nat} (digit : k < 0x40) : IsTail (UInt8.ofNat (0x80 + k)) := by
  have octet : (UInt8.ofNat (0x80 + k)).toNat = 0x80 + k := toNat_ofNat_of_lt (by omega)
  rw [IsTail, octet]
  omega

private theorem sequence_encodeChar (c : Char) : Sequence (encodeChar c) := by
  obtain ⟨bound, noSurrogate⟩ := toNat_range c
  unfold encodeChar
  generalize c.toNat = n at bound noSurrogate
  simp only
  split
  · rename_i one
    have lead : (UInt8.ofNat n).toNat = n := toNat_ofNat_of_lt (by omega)
    exact .one (by omega)
  · split
    · rename_i above two
      have lead : (UInt8.ofNat (0xC0 + n / 0x40)).toNat = 0xC0 + n / 0x40 :=
        toNat_ofNat_of_lt (by omega)
      exact .two (by omega) (by omega) (isTail_ofNat (by omega))
    · have second {k : Nat} (digit : k < 0x40) : (UInt8.ofNat (0x80 + k)).toNat = 0x80 + k :=
        toNat_ofNat_of_lt (by omega)
      split
      · have lead : (UInt8.ofNat (0xE0 + n / 0x1000)).toNat = 0xE0 + n / 0x1000 :=
          toNat_ofNat_of_lt (by omega)
        refine .three (by omega) (by omega) (isTail_ofNat (by omega)) ?_ ?_ (isTail_ofNat (by omega))
        · rw [lead, second (by omega)]
          omega
        · rw [lead, second (by omega)]
          omega
      · have lead : (UInt8.ofNat (0xF0 + n / 0x40000)).toNat = 0xF0 + n / 0x40000 :=
          toNat_ofNat_of_lt (by omega)
        refine .four (by omega) (by omega) (isTail_ofNat (by omega)) ?_ ?_ (isTail_ofNat (by omega))
          (isTail_ofNat (by omega))
        · rw [lead, second (by omega)]
          omega
        · rw [lead, second (by omega)]
          omega

/-- Each sequence is that of a character, and each character has one. -/
private theorem sequence_iff {bytes : Bytes} : Sequence bytes ↔ ∃ c, encodeChar c = bytes := by
  constructor
  · intro sequence
    cases sequence with
    | one small => exact ⟨_, encodeChar_one (by omega)⟩
    | two above below second =>
      exact ⟨_, encodeChar_two above (by omega) second.1 second.2⟩
    | @three a _ _ above below second shortest noSurrogate third =>
      have split : a.toNat = 0xE0 + (a.toNat - 0xE0) := by omega
      exact ⟨_, encodeChar_three split (by omega) second.1 second.2 shortest noSurrogate third.1
        third.2⟩
    | @four a _ _ _ above below second shortest inRange third fourth =>
      have split : a.toNat = 0xF0 + (a.toNat - 0xF0) := by omega
      exact ⟨_, encodeChar_four split (by omega) second.1 second.2 shortest inRange third.1 third.2
        fourth.1 fourth.2⟩
  · rintro ⟨c, rfl⟩
    exact sequence_encodeChar c

private theorem wellFormed_encodeChars (text : List Char) : WellFormed (encodeChars text) := by
  induction text with
  | nil => exact .nil
  | cons c text ih => exact .append (sequence_encodeChar c) ih

theorem wellFormed_iff {bytes : Bytes} : WellFormed bytes ↔ ∃ text, encode text = bytes := by
  constructor
  · intro wellFormed
    induction wellFormed with
    | nil => exact ⟨"", rfl⟩
    | append first others ih =>
      obtain ⟨c, rfl⟩ := sequence_iff.1 first
      obtain ⟨text, rfl⟩ := ih
      refine ⟨String.ofList (c :: text.toList), ?_⟩
      rw [encode, String.toList_ofList]
      rfl
  · rintro ⟨text, rfl⟩
    exact wellFormed_encodeChars text.toList

theorem decode?_eq_none_iff {bytes : Bytes} : decode? bytes = none ↔ ¬ WellFormed bytes := by
  rw [decode?_eq_none, wellFormed_iff, not_exists]
  exact forall_congr' fun text => not_congr eq_comm

/-- The states that the machine comes to: a range for the next octet is a range of tails, and holds
one. -/
def State.Sound : State → Prop
  | .start => True
  | .pending _ lacking low high => 1 ≤ lacking ∧ 0x80 ≤ low ∧ low ≤ high ∧ high ≤ 0xBF

private theorem sound_lead (octet : Nat) : (lead octet).1.Sound := by
  unfold lead
  repeat' split
  all_goals simp [State.Sound]

private theorem State.Sound.step {state : State} (sound : state.Sound) (octet : UInt8) :
    (step state octet).1.Sound := by
  unfold Utf8.step
  cases state with
  | start => exact sound_lead octet.toNat
  | pending value lacking low high =>
    obtain ⟨unfinished, -⟩ := sound
    simp only
    split
    · split
      · trivial
      · exact ⟨by omega, by omega, by omega, by omega⟩
    · exact sound_lead octet.toNat

private theorem State.Sound.feed {state : State} (sound : state.Sound) (bytes : Bytes)
    (units : List Decoded) : (feed bytes state units).1.Sound := by
  induction bytes generalizing state units with
  | nil => exact sound
  | cons octet bytes ih => exact ih (sound.step octet) _

private theorem sound_feed (bytes : Bytes) : (feed bytes .start []).1.Sound := by
  have here : State.Sound .start := trivial
  exact here.feed bytes []

theorem sound_of_waiting {bytes : Bytes} {value lacking low high : Nat}
    (waiting : feed bytes .start [] = (.pending value lacking low high, [])) :
    State.Sound (.pending value lacking low high) := by
  have sound := sound_feed bytes
  rwa [waiting] at sound

/-- Where bytes yield a hole, so do all bytes that end in them, if they start with an octet that ends
what is pending. -/
private theorem hole_append {octet : UInt8} {rest : Bytes} (lead : ¬ IsTail octet)
    (hole : none ∈ remaining .start (octet :: rest)) (front : Bytes) :
    none ∈ remaining .start (front ++ octet :: rest) := by
  have sound := sound_feed front
  rw [remaining_append, List.mem_append]
  right
  generalize (feed front .start []).1 = state at sound
  cases state with
  | start => exact hole
  | pending value lacking low high =>
    obtain ⟨-, least, -, most⟩ := sound
    rw [remaining_cons, step, if_neg (fun within => lead ⟨by omega, by omega⟩)]
    exact List.mem_cons_self

private theorem not_wellFormed_of_hole {bytes : Bytes} (hole : none ∈ remaining .start bytes) :
    ¬ WellFormed bytes := by
  rw [wellFormed_iff]
  rintro ⟨text, rfl⟩
  have whole : remaining .start (encode text) = text.toList.map some := units_encodeChars text.toList
  rw [whole] at hole
  simp at hole

/-- A number in the form of two, three or four octets, whether a character has that form or not. -/
def form (width n : Nat) : Bytes :=
  match width with
  | 2 => [UInt8.ofNat (0xC0 + n / 0x40), UInt8.ofNat (0x80 + n % 0x40)]
  | 3 => [UInt8.ofNat (0xE0 + n / 0x1000), UInt8.ofNat (0x80 + n / 0x40 % 0x40),
      UInt8.ofNat (0x80 + n % 0x40)]
  | _ => [UInt8.ofNat (0xF0 + n / 0x40000), UInt8.ofNat (0x80 + n / 0x1000 % 0x40),
      UInt8.ofNat (0x80 + n / 0x40 % 0x40), UInt8.ofNat (0x80 + n % 0x40)]

/-- The first number that takes so many octets. -/
def least : (width : Nat) → Nat
  | 2 => 0x80
  | 3 => 0x800
  | _ => 0x10000

/-- What no well-formed bytes hold, with what comes behind it. -/
inductive Flaw : (flaw behind : Bytes) → Prop where
  /-- A form with more octets than the number takes. -/
  | overlong {width n : Nat} {behind : Bytes} (octets : 2 ≤ width ∧ width ≤ 4)
      (small : n < least width) : Flaw (form width n) behind
  | surrogate {n : Nat} {behind : Bytes} (above : 0xD800 ≤ n) (below : n ≤ 0xDFFF) :
      Flaw (form 3 n) behind
  /-- A number beyond the last character. -/
  | beyond {n : Nat} {behind : Bytes} (above : 0x10FFFF < n) (below : n < 0x200000) :
      Flaw (form 4 n) behind
  /-- A sequence that breaks off. -/
  | truncated {front back behind : Bytes} (begun : front ≠ []) (missing : back ≠ [])
      (sequence : Sequence (front ++ back)) (stops : ∀ octet ∈ behind.head?, ¬ IsTail octet) :
      Flaw front behind

/-- A second octet outside the range that the first one leaves is a hole. -/
private theorem hole_of_second {a b : UInt8} {rest : Bytes} {value lacking low high : Nat}
    (first : lead a.toNat = (.pending value lacking low high, []))
    (outside : b.toNat < low ∨ high < b.toNat) : none ∈ remaining .start (a :: b :: rest) := by
  rw [remaining_cons, step, first, remaining_cons, step, if_neg (by omega)]
  simp

private theorem hole_of_lead {a : UInt8} {rest : Bytes} (first : lead a.toNat = (.start, [none])) :
    none ∈ remaining .start (a :: rest) := by
  rw [remaining_cons, step, first]
  simp

/-- The machine is back at its start only when it has yielded something. -/
private theorem yields_of_start {state : State} {octet : UInt8}
    (done : (step state octet).1 = .start) :
    (step state octet).2 ≠ [] := by
  have leads (octet : Nat) (done : (lead octet).1 = .start) : (lead octet).2 ≠ [] := by
    unfold lead at done ⊢
    repeat' split
    all_goals simp_all
  cases state with
  | start => exact leads _ done
  | pending value lacking low high =>
    unfold step at done ⊢
    simp only at done ⊢
    split at done
    · rename_i within
      rw [if_pos within]
      split at done
      · rename_i last
        rw [if_pos last]
        simp
      · cases done
    · rename_i without
      rw [if_neg without]
      simp

private theorem yielded_ne_nil {state : State} {bytes : Bytes} (hasBytes : bytes ≠ [])
    (done : (feed bytes state []).1 = .start) : yielded state bytes ≠ [] := by
  obtain ⟨front, octet, rfl⟩ := List.eq_nil_or_concat bytes |>.resolve_left hasBytes
  rw [List.concat_eq_append] at done ⊢
  rw [feed_append, feed_cons, feed_nil] at done
  have last := yields_of_start done
  rw [yielded_append]
  simpa [yielded, feed_cons] using fun _ => last

/-- In the middle of a sequence the machine has yielded nothing yet and waits for more. -/
private theorem feed_of_begun {front back : Bytes} (begun : front ≠ []) (missing : back ≠ [])
    (sequence : Sequence (front ++ back)) :
    ∃ value lacking low high, feed front .start [] = (.pending value lacking low high, []) := by
  obtain ⟨c, octets⟩ := sequence_iff.1 sequence
  have whole : feed (front ++ back) .start [] = (.start, [some c]) := by
    rw [← octets, feed_encodeChar]
  have units : yielded .start front ++ yielded (feed front .start []).1 back = [some c] := by
    rw [← yielded_append, yielded, whole]
    rfl
  have ended : (feed back (feed front .start []).1 []).1 = .start := by
    rw [feed_append, feed_eq] at whole
    exact congrArg Prod.fst whole
  have lastUnit := List.length_pos_iff.2 (yielded_ne_nil missing ended)
  have count := congrArg List.length units
  rw [List.length_append, List.length_singleton] at count
  have nothing : yielded .start front = [] := List.length_eq_zero_iff.1 (by omega)
  cases reached : feed front .start [] with
  | mk state units =>
    have none_yet : units = [] := by
      rw [yielded, reached] at nothing
      exact List.reverse_eq_nil_iff.1 nothing
    cases state with
    | start => exact absurd nothing (yielded_ne_nil begun (by rw [reached]))
    | pending value lacking low high =>
      rw [none_yet]
      exact ⟨value, lacking, low, high, rfl⟩

private theorem Sequence.head {octet : UInt8} {rest : Bytes} (sequence : Sequence (octet :: rest)) :
    ¬ IsTail octet := by
  unfold IsTail
  cases sequence <;> omega

private theorem toNat_digit (n : Nat) : (UInt8.ofNat (0x80 + n % 0x40)).toNat = 0x80 + n % 0x40 :=
  toNat_ofNat_of_lt (by omega)

/-- Bytes that yield a hole and start with an octet that ends what is pending. -/
def LeavesHole (bytes : Bytes) : Prop :=
  ∃ octet rest, bytes = octet :: rest ∧ ¬ IsTail octet ∧ none ∈ remaining .start (octet :: rest)

private theorem leavesHole_of_form {width n : Nat} {behind : Bytes} {a b : UInt8} {rest : Bytes}
    (octets : form width n = a :: b :: rest) (lead : ¬ IsTail a)
    (hole : none ∈ remaining .start (a :: b :: (rest ++ behind))) :
    LeavesHole (form width n ++ behind) := by
  rw [octets]
  exact ⟨a, b :: (rest ++ behind), rfl, lead, hole⟩

/-- An overlong form starts with an octet that no sequence starts with, or has a second one below the
range that the first one leaves. -/
private theorem leavesHole_of_overlong {width n : Nat} (octets : 2 ≤ width ∧ width ≤ 4)
    (small : n < least width) (behind : Bytes) : LeavesHole (form width n ++ behind) := by
  obtain rfl | rfl | rfl : width = 2 ∨ width = 3 ∨ width = 4 := by omega
  · have small : n < 0x80 := small
    have octet : (UInt8.ofNat (0xC0 + n / 0x40)).toNat = 0xC0 + n / 0x40 :=
      toNat_ofNat_of_lt (by omega)
    refine leavesHole_of_form rfl (fun tail => ?_) (hole_of_lead ?_)
    · have := tail.2
      omega
    · rw [octet, lead, if_neg (by omega), if_pos (by omega)]
  · have small : n < 0x800 := small
    have none_above : n / 0x1000 = 0 := by omega
    have first : lead (UInt8.ofNat (0xE0 + n / 0x1000)).toNat = (.pending 0 2 0xA0 0xBF, []) := by
      rw [none_above]
      rfl
    refine leavesHole_of_form rfl ?_ (hole_of_second first (.inl ?_))
    · rw [none_above]
      decide
    · rw [toNat_digit]
      omega
  · have small : n < 0x10000 := small
    have none_above : n / 0x40000 = 0 := by omega
    have first : lead (UInt8.ofNat (0xF0 + n / 0x40000)).toNat = (.pending 0 3 0x90 0xBF, []) := by
      rw [none_above]
      rfl
    refine leavesHole_of_form rfl ?_ (hole_of_second first (.inl ?_))
    · rw [none_above]
      decide
    · rw [toNat_digit]
      omega

private theorem leavesHole_of_surrogate {n : Nat} (above : 0xD800 ≤ n) (below : n ≤ 0xDFFF)
    (behind : Bytes) : LeavesHole (form 3 n ++ behind) := by
  have within : n / 0x1000 = 0xD := by omega
  have first : lead (UInt8.ofNat (0xE0 + n / 0x1000)).toNat = (.pending 0xD 2 0x80 0x9F, []) := by
    rw [within]
    rfl
  refine leavesHole_of_form rfl ?_ (hole_of_second first (.inr ?_))
  · rw [within]
    decide
  · rw [toNat_digit]
    omega

private theorem leavesHole_of_beyond {n : Nat} (above : 0x10FFFF < n) (below : n < 0x200000)
    (behind : Bytes) : LeavesHole (form 4 n ++ behind) := by
  by_cases last : n / 0x40000 = 4
  · have first : lead (UInt8.ofNat (0xF0 + n / 0x40000)).toNat = (.pending 4 3 0x80 0x8F, []) := by
      rw [last]
      rfl
    refine leavesHole_of_form rfl ?_ (hole_of_second first (.inr ?_))
    · rw [last]
      decide
    · rw [toNat_digit]
      omega
  · have octet : (UInt8.ofNat (0xF0 + n / 0x40000)).toNat = 0xF0 + n / 0x40000 :=
      toNat_ofNat_of_lt (by omega)
    refine leavesHole_of_form rfl (fun tail => ?_) (hole_of_lead ?_)
    · have := tail.2
      omega
    · rw [octet, lead]
      repeat rw [if_neg (by omega)]

/-- A sequence that breaks off leaves its hole when the next octet, or the end, shows that it does. -/
private theorem leavesHole_of_truncated {front back behind : Bytes} (begun : front ≠ [])
    (missing : back ≠ []) (sequence : Sequence (front ++ back))
    (stops : ∀ octet ∈ behind.head?, ¬ IsTail octet) :
    LeavesHole (front ++ behind) := by
  obtain ⟨octet, rest, rfl⟩ := List.exists_cons_of_ne_nil begun
  refine ⟨octet, rest ++ behind, rfl, sequence.head, ?_⟩
  obtain ⟨value, lacking, low, high, waiting⟩ := feed_of_begun begun missing sequence
  have sound := sound_of_waiting waiting
  rw [← List.cons_append, remaining_append, waiting]
  cases behind with
  | nil => exact List.mem_cons_self
  | cons next others =>
    obtain ⟨-, least, -, most⟩ := sound
    have outside : ¬ (low ≤ next.toNat ∧ next.toNat ≤ high) := by
      intro within
      exact stops next rfl ⟨by omega, by omega⟩
    rw [remaining_cons, step, if_neg outside]
    exact List.mem_cons_self

private theorem Flaw.leavesHole {flaw behind : Bytes} (h : Flaw flaw behind) :
    LeavesHole (flaw ++ behind) := by
  cases h with
  | overlong octets small => exact leavesHole_of_overlong octets small behind
  | surrogate above below => exact leavesHole_of_surrogate above below behind
  | beyond above below => exact leavesHole_of_beyond above below behind
  | truncated begun missing sequence stops => exact leavesHole_of_truncated begun missing sequence stops

/-- Bytes with a flaw in them are not well formed, whatever stands before it. -/
theorem Flaw.not_wellFormed {flaw behind : Bytes} (h : Flaw flaw behind) (front : Bytes) :
    ¬ WellFormed (front ++ (flaw ++ behind)) := by
  obtain ⟨octet, rest, same, head, hole⟩ := h.leavesHole
  rw [same]
  exact not_wellFormed_of_hole (hole_append head hole front)

end ContainerLogs.Text.Utf8
