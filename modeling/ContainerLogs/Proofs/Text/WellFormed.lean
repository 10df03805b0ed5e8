import ContainerLogs.Proofs.Text.Utf8

/-!
Bytes that decode strictly are the UTF-8 form of what they decode to, and of nothing else: the octet
machine accepts no longer form of a character, no surrogate and no unfinished sequence.
-/
namespace ContainerLogs.Text.Utf8

private theorem toNat_charOfNat {n : Nat} (valid : n.isValidChar) : (Char.ofNat n).toNat = n := by
  unfold Char.ofNat
  rw [dif_pos valid]
  rfl

/-- What the machine yields on the bytes to come. -/
def remaining (state : State) (bytes : Bytes) : List Decoded :=
  (feed bytes state []).2.reverse ++ finish (feed bytes state []).1

theorem feed_eq (bytes : Bytes) (state : State) (units : List Decoded) :
    feed bytes state units = ((feed bytes state []).1, (feed bytes state []).2 ++ units) := by
  induction bytes generalizing state units with
  | nil => rfl
  | cons octet bytes ih =>
    rw [feed_cons, feed_cons, ih, ih _ ((step state octet).2.reverseAux [])]
    simp

@[simp] theorem remaining_nil (state : State) : remaining state [] = finish state := rfl

theorem remaining_cons (state : State) (octet : UInt8) (bytes : Bytes) :
    remaining state (octet :: bytes) =
      (step state octet).2 ++ remaining (step state octet).1 bytes := by
  rw [remaining, feed_cons, feed_eq]
  simp [remaining]

/-- Where the bytes are cut does not matter, as long as the state is carried over the cut. -/
theorem remaining_append (state : State) (front back : Bytes) :
    remaining state (front ++ back) =
      (feed front state []).2.reverse ++ remaining (feed front state []).1 back := by
  rw [remaining, feed_append, feed_eq]
  simp [remaining]

/-- What the machine has yielded when it has run over some bytes, and others may follow. -/
def yielded (state : State) (bytes : Bytes) : List Decoded := (feed bytes state []).2.reverse

@[simp] theorem yielded_nil (state : State) : yielded state [] = [] := rfl

theorem yielded_append (state : State) (front back : Bytes) :
    yielded state (front ++ back) = yielded state front ++ yielded (feed front state []).1 back := by
  rw [yielded, feed_append, feed_eq]
  simp [yielded]

theorem decodeLenient_eq (bytes : Bytes) :
    decodeLenient bytes = String.ofList ((remaining .start bytes).map shown) := rfl

/-- What the front of some bytes yields is a front of their text. -/
theorem decodeLenient_append (front back : Bytes) :
    decodeLenient (front ++ back) = String.ofList ((yielded .start front).map shown) ++
      String.ofList ((remaining (feed front .start []).1 back).map shown) := by
  rw [decodeLenient_eq, remaining_append, List.map_append, String.ofList_append]
  rfl

section Pending

variable {value lacking low high : Nat} {bytes : Bytes} {text : List Char}

/-- A pending sequence that comes out well-formed goes on with an octet in the range expected. -/
private theorem exists_of_pending
    (h : remaining (.pending value lacking low high) bytes = text.map some) :
    ∃ octet rest, bytes = octet :: rest ∧ low ≤ octet.toNat ∧ octet.toNat ≤ high := by
  have noHole : none ∉ remaining (.pending value lacking low high) bytes := by simp [h]
  cases bytes with
  | nil => simp [finish] at noHole
  | cons octet rest =>
    refine ⟨octet, rest, rfl, ?_⟩
    refine Decidable.byContradiction fun outside => ?_
    rw [remaining_cons, step, if_neg outside] at noHole
    simp at noHole

private theorem remaining_continued
    (h : remaining (.pending value lacking low high) bytes = text.map some) (more : 1 < lacking) :
    ∃ octet rest, bytes = octet :: rest ∧ low ≤ octet.toNat ∧
      octet.toNat ≤ high ∧
      remaining (.pending (value * 0x40 + octet.toNat % 0x40) (lacking - 1) 0x80 0xBF) rest =
        text.map some := by
  obtain ⟨octet, rest, rfl, above, below⟩ := exists_of_pending h
  refine ⟨octet, rest, rfl, above, below, ?_⟩
  rw [remaining_cons, step, if_pos ⟨above, below⟩] at h
  simp only at h
  rw [if_neg (by omega)] at h
  exact h

private theorem remaining_completed
    (h : remaining (.pending value 1 low high) bytes = text.map some) :
    ∃ octet rest others, bytes = octet :: rest ∧ low ≤ octet.toNat ∧ octet.toNat ≤ high ∧
      text = Char.ofNat (value * 0x40 + octet.toNat % 0x40) :: others ∧
      remaining .start rest = others.map some := by
  obtain ⟨octet, rest, rfl, above, below⟩ := exists_of_pending h
  rw [remaining_cons, step, if_pos ⟨above, below⟩] at h
  simp only [Nat.le_refl, if_true, List.singleton_append] at h
  obtain ⟨c, others, rfl, same, rest_eq⟩ := List.map_eq_cons_iff.1 h.symm
  refine ⟨octet, rest, others, rfl, above, below, ?_, rest_eq.symm⟩
  rw [Option.some.inj same]

end Pending

/-- What the first octet of a sequence tells of the value and of the second octet. The ranges leave
out the shorter forms and the surrogates. -/
inductive Lead (octet : Nat) : State × List Decoded → Prop where
  | illFormed : Lead octet (.start, [none])
  | one (small : octet < 0x80) : Lead octet (.start, [some (Char.ofNat octet)])
  | two (above : 0xC2 ≤ octet) (below : octet < 0xE0) :
      Lead octet (.pending (octet - 0xC0) 1 0x80 0xBF, [])
  | three {value low high : Nat} (split : octet = 0xE0 + value) (below : octet < 0xF0)
      (range : 0x80 ≤ low ∧ high ≤ 0xBF) (shortest : octet = 0xE0 → 0xA0 ≤ low)
      (noSurrogate : octet = 0xED → high ≤ 0x9F) :
      Lead octet (.pending value 2 low high, [])
  | four {value low high : Nat} (split : octet = 0xF0 + value) (below : octet < 0xF5)
      (range : 0x80 ≤ low ∧ high ≤ 0xBF) (shortest : octet = 0xF0 → 0x90 ≤ low)
      (inRange : octet = 0xF4 → high ≤ 0x8F) :
      Lead octet (.pending value 3 low high, [])

theorem lead_cases (octet : Nat) : Lead octet (lead octet) := by
  unfold lead
  by_cases small : octet < 0x80
  · rw [if_pos small]
    exact .one small
  rw [if_neg small]
  by_cases stray : octet < 0xC2
  · rw [if_pos stray]
    exact .illFormed
  rw [if_neg stray]
  by_cases two : octet < 0xE0
  · rw [if_pos two]
    exact .two (by omega) two
  rw [if_neg two]
  by_cases shortest : octet = 0xE0
  · rw [if_pos shortest]
    subst shortest
    exact .three (by omega) (by omega) (by omega) (by omega) (by omega)
  rw [if_neg shortest]
  by_cases surrogates : octet = 0xED
  · rw [if_pos surrogates]
    subst surrogates
    exact .three (by omega) (by omega) (by omega) (by omega) (by omega)
  rw [if_neg surrogates]
  by_cases three : octet < 0xF0
  · rw [if_pos three]
    exact .three (by omega) three (by omega) (by omega) (by omega)
  rw [if_neg three]
  by_cases shortest' : octet = 0xF0
  · rw [if_pos shortest']
    subst shortest'
    exact .four (by omega) (by omega) (by omega) (by omega) (by omega)
  rw [if_neg shortest']
  by_cases middle : octet < 0xF4
  · rw [if_pos middle]
    exact .four (by omega) (by omega) (by omega) (by omega) (by omega)
  rw [if_neg middle]
  by_cases last : octet = 0xF4
  · rw [if_pos last]
    subst last
    exact .four (by omega) (by omega) (by omega) (by omega) (by omega)
  · rw [if_neg last]
    exact .illFormed

theorem encodeChar_one {octet : UInt8} (small : octet.toNat < 0x80) :
    encodeChar (Char.ofNat octet.toNat) = [octet] := by
  have same : (Char.ofNat octet.toNat).toNat = octet.toNat :=
    toNat_charOfNat (.inl (by omega))
  simp only [encodeChar, same]
  rw [if_pos small, UInt8.ofNat_toNat]

theorem encodeChar_two {first second : UInt8} (above : 0xC2 ≤ first.toNat)
    (below : first.toNat < 0xE0) (low : 0x80 ≤ second.toNat) (high : second.toNat ≤ 0xBF) :
    encodeChar (Char.ofNat ((first.toNat - 0xC0) * 0x40 + second.toNat % 0x40)) =
      [first, second] := by
  generalize value : (first.toNat - 0xC0) * 0x40 + second.toNat % 0x40 = n
  have same : (Char.ofNat n).toNat = n := toNat_charOfNat (.inl (by omega))
  have first_eq : 0xC0 + n / 0x40 = first.toNat := by omega
  have second_eq : 0x80 + n % 0x40 = second.toNat := by omega
  simp only [encodeChar, same]
  rw [if_neg (by omega), if_pos (by omega), first_eq, second_eq, UInt8.ofNat_toNat,
    UInt8.ofNat_toNat]

theorem encodeChar_three {first second third : UInt8} {value : Nat}
    (split : first.toNat = 0xE0 + value) (below : first.toNat < 0xF0)
    (low : 0x80 ≤ second.toNat) (high : second.toNat ≤ 0xBF)
    (shortest : first.toNat = 0xE0 → 0xA0 ≤ second.toNat)
    (noSurrogate : first.toNat = 0xED → second.toNat ≤ 0x9F)
    (low' : 0x80 ≤ third.toNat) (high' : third.toNat ≤ 0xBF) :
    encodeChar (Char.ofNat ((value * 0x40 + second.toNat % 0x40) * 0x40 + third.toNat % 0x40)) =
      [first, second, third] := by
  generalize whole : (value * 0x40 + second.toNat % 0x40) * 0x40 + third.toNat % 0x40 = n
  have same : (Char.ofNat n).toNat = n := by
    apply toNat_charOfNat
    unfold Nat.isValidChar
    omega
  have first_eq : 0xE0 + n / 0x1000 = first.toNat := by omega
  have second_eq : 0x80 + n / 0x40 % 0x40 = second.toNat := by omega
  have third_eq : 0x80 + n % 0x40 = third.toNat := by omega
  simp only [encodeChar, same]
  rw [if_neg (by omega), if_neg (by omega), if_pos (by omega), first_eq, second_eq, third_eq,
    UInt8.ofNat_toNat, UInt8.ofNat_toNat, UInt8.ofNat_toNat]

theorem encodeChar_four {first second third fourth : UInt8} {value : Nat}
    (split : first.toNat = 0xF0 + value) (below : first.toNat < 0xF5)
    (low : 0x80 ≤ second.toNat) (high : second.toNat ≤ 0xBF)
    (shortest : first.toNat = 0xF0 → 0x90 ≤ second.toNat)
    (inRange : first.toNat = 0xF4 → second.toNat ≤ 0x8F)
    (low' : 0x80 ≤ third.toNat) (high' : third.toNat ≤ 0xBF)
    (low'' : 0x80 ≤ fourth.toNat) (high'' : fourth.toNat ≤ 0xBF) :
    encodeChar (Char.ofNat (((value * 0x40 + second.toNat % 0x40) * 0x40 +
      third.toNat % 0x40) * 0x40 + fourth.toNat % 0x40)) = [first, second, third, fourth] := by
  generalize whole : ((value * 0x40 + second.toNat % 0x40) * 0x40 +
    third.toNat % 0x40) * 0x40 + fourth.toNat % 0x40 = n
  have same : (Char.ofNat n).toNat = n := by
    apply toNat_charOfNat
    unfold Nat.isValidChar
    omega
  have first_eq : 0xF0 + n / 0x40000 = first.toNat := by omega
  have second_eq : 0x80 + n / 0x1000 % 0x40 = second.toNat := by omega
  have third_eq : 0x80 + n / 0x40 % 0x40 = third.toNat := by omega
  have fourth_eq : 0x80 + n % 0x40 = fourth.toNat := by omega
  simp only [encodeChar, same]
  rw [if_neg (by omega), if_neg (by omega), if_neg (by omega), first_eq, second_eq, third_eq,
    fourth_eq, UInt8.ofNat_toNat, UInt8.ofNat_toNat, UInt8.ofNat_toNat, UInt8.ofNat_toNat]

/-- Well-formed bytes start with the octets of the first character that they yield. -/
private theorem exists_of_start {octet : UInt8} {bytes : Bytes} {text : List Char}
    (h : remaining .start (octet :: bytes) = text.map some) :
    ∃ c others rest, text = c :: others ∧ octet :: bytes = encodeChar c ++ rest ∧
      remaining .start rest = others.map some := by
  rw [remaining_cons] at h
  simp only [step] at h
  have led := lead_cases octet.toNat
  generalize lead octet.toNat = result at h led
  cases led with
  | illFormed =>
    have noHole : none ∉ text.map some := by simp
    simp [← h] at noHole
  | one small =>
    obtain ⟨c, others, rfl, same, rest_eq⟩ := List.map_eq_cons_iff.1 h.symm
    refine ⟨c, others, bytes, rfl, ?_, rest_eq.symm⟩
    rw [Option.some.inj same, encodeChar_one small]
    rfl
  | two above below =>
    obtain ⟨second, rest, others, rfl, low, high, rfl, done⟩ := remaining_completed h
    exact ⟨_, others, rest, rfl, by rw [encodeChar_two above below low high]; rfl, done⟩
  | three split below range shortest noSurrogate =>
    obtain ⟨second, middle, rfl, low, high, h⟩ := remaining_continued h (by omega)
    obtain ⟨third, rest, others, rfl, low', high', rfl, done⟩ := remaining_completed h
    refine ⟨_, others, rest, rfl, ?_, done⟩
    rw [encodeChar_three split below (by omega) (by omega) (by omega) (by omega) low' high']
    rfl
  | four split below range shortest inRange =>
    obtain ⟨second, middle, rfl, low, high, h⟩ := remaining_continued h (by omega)
    obtain ⟨third, middle', rfl, low', high', h⟩ := remaining_continued h (by omega)
    obtain ⟨fourth, rest, others, rfl, low'', high'', rfl, done⟩ := remaining_completed h
    refine ⟨_, others, rest, rfl, ?_, done⟩
    rw [encodeChar_four split below (by omega) (by omega) (by omega) (by omega) low' high' low''
      high'']
    rfl

theorem eq_encodeChars_of_remaining {bytes : Bytes} {text : List Char}
    (h : remaining .start bytes = text.map some) : bytes = encodeChars text := by
  induction text generalizing bytes with
  | nil =>
    cases bytes with
    | nil => rfl
    | cons octet rest =>
      obtain ⟨c, others, _, impossible, -⟩ := exists_of_start h
      cases impossible
  | cons c text ih =>
    cases bytes with
    | nil => cases h
    | cons octet rest =>
      obtain ⟨_, _, rest', same, split, done⟩ := exists_of_start h
      cases same
      rw [split, ih done]
      rfl

private theorem mapM_id_eq_some {units : List Decoded} {text : List Char}
    (h : units.mapM id = some text) : units = text.map some := by
  induction units generalizing text with
  | nil =>
    cases h
    rfl
  | cons unit units ih =>
    cases unit with
    | none => simp at h
    | some c =>
      cases others : units.mapM id with
      | none => simp [others] at h
      | some rest =>
        simp only [List.mapM_cons, id, others] at h
        cases h
        rw [List.map_cons, ← ih others]

/-- Strict decoding accepts the UTF-8 forms of texts and no other bytes. -/
theorem decode?_eq_some {bytes : Bytes} {text : String} :
    decode? bytes = some text ↔ bytes = encode text := by
  constructor
  · intro decoded
    simp only [decode?, Option.map_eq_some_iff] at decoded
    obtain ⟨chars, wellFormed, rfl⟩ := decoded
    have whole := eq_encodeChars_of_remaining (mapM_id_eq_some wellFormed)
    rw [whole, encode, String.toList_ofList]
  · rintro rfl
    exact decode?_encode text

theorem decode?_eq_none {bytes : Bytes} :
    decode? bytes = none ↔ ∀ text, bytes ≠ encode text := by
  rw [Option.eq_none_iff_forall_ne_some]
  exact forall_congr' fun text => not_congr decode?_eq_some

theorem encode_injective {text other : String} (h : encode text = encode other) : text = other := by
  have decoded := decode?_encode text
  rw [h, decode?_encode] at decoded
  exact (Option.some.inj decoded).symm

end ContainerLogs.Text.Utf8
