import ContainerLogs.Text.Utf8

/-! A text comes back from its UTF-8 form, strictly and leniently read. -/
namespace ContainerLogs.Text.Utf8

theorem toNat_range (c : Char) :
    c.toNat < 0x110000 ∧ (c.toNat < 0xD800 ∨ 0xDFFF < c.toNat) := by
  have valid := c.valid
  have value : c.toNat = c.val.toNat := rfl
  simp only [UInt32.isValidChar, Nat.isValidChar] at valid
  omega

theorem length_encodeChar (c : Char) : (encodeChar c).length = c.utf8Size := by
  have value : c.toNat = c.val.toNat := rfl
  simp only [encodeChar, Char.utf8Size, UInt32.le_iff_toNat_le, UInt32.toNat_ofNatLT]
  repeat' split
  all_goals first | rfl | omega

theorem length_encode (text : String) : (encode text).length = text.utf8ByteSize := by
  have chars (text : List Char) : (encodeChars text).length = (String.ofList text).utf8ByteSize := by
    induction text with
    | nil => rfl
    | cons c text ih =>
      rw [String.ofList_cons, String.utf8ByteSize_append, String.utf8ByteSize_singleton, ← ih,
        ← length_encodeChar]
      simp [encodeChars]
  rw [encode, chars, String.ofList_toList]

theorem toNat_ofNat_of_lt {n : Nat} (h : n < 0x100) : (UInt8.ofNat n).toNat = n := by
  rw [UInt8.toNat_ofNat', Nat.mod_eq_of_lt h]

theorem feed_cons (octet : UInt8) (bytes : Bytes) (state : State) (units : List Decoded) :
    feed (octet :: bytes) state units =
      feed bytes (step state octet).1 ((step state octet).2.reverseAux units) := rfl

private theorem step_start {n : Nat} (h : n < 0x100) : step .start (UInt8.ofNat n) = lead n := by
  simp only [step, toNat_ofNat_of_lt h]

private theorem lead_one {n : Nat} (h : n < 0x80) : lead n = (.start, [some (Char.ofNat n)]) := by
  rw [lead, if_pos h]

private theorem lead_two {n : Nat} (low : 0x80 ≤ n) (high : n < 0x800) :
    lead (0xC0 + n / 0x40) = (.pending (n / 0x40) 1 0x80 0xBF, []) := by
  unfold lead
  rw [if_neg (by omega), if_neg (by omega), if_pos (by omega), Nat.add_sub_cancel_left]

/-- The second of three octets is where the first one wants it, since no surrogate is written and no
shorter form would do. -/
private theorem lead_three {n : Nat} (low : 0x800 ≤ n) (high : n < 0x10000)
    (h : n < 0xD800 ∨ 0xDFFF < n) : ∃ least most,
    lead (0xE0 + n / 0x1000) = (.pending (n / 0x1000) 2 least most, []) ∧
      least ≤ 0x80 + n / 0x40 % 0x40 ∧ 0x80 + n / 0x40 % 0x40 ≤ most := by
  unfold lead
  rw [if_neg (by omega), if_neg (by omega), if_neg (by omega)]
  by_cases shortest : n / 0x1000 = 0
  · rw [if_pos (by omega), shortest]
    exact ⟨_, _, rfl, by omega, by omega⟩
  · rw [if_neg (by omega)]
    by_cases beforeSurrogates : n / 0x1000 = 0xD
    · rw [if_pos (by omega), beforeSurrogates]
      exact ⟨_, _, rfl, by omega, by omega⟩
    · rw [if_neg (by omega), if_pos (by omega), Nat.add_sub_cancel_left]
      exact ⟨_, _, rfl, by omega, by omega⟩

private theorem lead_four {n : Nat} (low : 0x10000 ≤ n) (high : n < 0x110000) : ∃ least most,
    lead (0xF0 + n / 0x40000) = (.pending (n / 0x40000) 3 least most, []) ∧
      least ≤ 0x80 + n / 0x1000 % 0x40 ∧ 0x80 + n / 0x1000 % 0x40 ≤ most := by
  unfold lead
  rw [if_neg (by omega), if_neg (by omega), if_neg (by omega), if_neg (by omega), if_neg (by omega),
    if_neg (by omega)]
  by_cases shortest : n / 0x40000 = 0
  · rw [if_pos (by omega), shortest]
    exact ⟨_, _, rfl, by omega, by omega⟩
  · rw [if_neg (by omega)]
    by_cases last : n / 0x40000 = 4
    · rw [if_neg (by omega), if_pos (by omega), last]
      exact ⟨_, _, rfl, by omega, by omega⟩
    · rw [if_pos (by omega), Nat.add_sub_cancel_left]
      exact ⟨_, _, rfl, by omega, by omega⟩

private theorem step_continued {value lacking least most k : Nat} (digit : k < 0x40)
    (low : least ≤ 0x80 + k) (high : 0x80 + k ≤ most) (more : 1 < lacking) :
    step (.pending value lacking least most) (UInt8.ofNat (0x80 + k)) =
      (.pending (value * 0x40 + k) (lacking - 1) 0x80 0xBF, []) := by
  have octet : (UInt8.ofNat (0x80 + k)).toNat = 0x80 + k := toNat_ofNat_of_lt (by omega)
  have digits : (0x80 + k) % 0x40 = k := by omega
  simp only [step, octet, digits]
  rw [if_pos ⟨low, high⟩, if_neg (by omega)]

private theorem step_completed {value least most k : Nat} (digit : k < 0x40)
    (low : least ≤ 0x80 + k) (high : 0x80 + k ≤ most) :
    step (.pending value 1 least most) (UInt8.ofNat (0x80 + k)) =
      (.start, [some (Char.ofNat (value * 0x40 + k))]) := by
  have octet : (UInt8.ofNat (0x80 + k)).toNat = 0x80 + k := toNat_ofNat_of_lt (by omega)
  have digits : (0x80 + k) % 0x40 = k := by omega
  simp only [step, octet, digits]
  rw [if_pos ⟨low, high⟩, if_pos (Nat.le_refl 1)]

/-- The octets of a character take the machine from its start back to it and yield the character. -/
theorem feed_encodeChar (c : Char) (units : List Decoded) :
    feed (encodeChar c) .start units = (.start, some c :: units) := by
  obtain ⟨bound, noSurrogate⟩ := toNat_range c
  have same : Char.ofNat c.toNat = c := Char.ofNat_toNat c
  simp only [encodeChar]
  split
  · rename_i one
    rw [feed_cons, step_start (by omega), lead_one one, same]
    rfl
  · split
    · rename_i above two
      have value : c.toNat / 0x40 * 0x40 + c.toNat % 0x40 = c.toNat := by omega
      rw [feed_cons, step_start (by omega), lead_two (by omega) two, feed_cons,
        step_completed (by omega) (by omega) (by omega), value, same]
      rfl
    · split
      · rename_i above three
        obtain ⟨least, most, lead, low, high⟩ := lead_three (by omega) three noSurrogate
        have value : (c.toNat / 0x1000 * 0x40 + c.toNat / 0x40 % 0x40) * 0x40 + c.toNat % 0x40 =
            c.toNat := by omega
        rw [feed_cons, step_start (by omega), lead, feed_cons,
          step_continued (by omega) low high (by omega), feed_cons,
          step_completed (by omega) (by omega) (by omega), value, same]
        rfl
      · obtain ⟨least, most, lead, low, high⟩ := lead_four (n := c.toNat) (by omega) bound
        have value : ((c.toNat / 0x40000 * 0x40 + c.toNat / 0x1000 % 0x40) * 0x40 +
            c.toNat / 0x40 % 0x40) * 0x40 + c.toNat % 0x40 = c.toNat := by omega
        rw [feed_cons, step_start (by omega), lead, feed_cons,
          step_continued (by omega) low high (by omega), feed_cons,
          step_continued (by omega) (by omega) (by omega) (by omega), feed_cons,
          step_completed (by omega) (by omega) (by omega), value, same]
        rfl

private theorem feed_encodeChars (text : List Char) (units : List Decoded) :
    feed (encodeChars text) .start units = (.start, (text.map some).reverse ++ units) := by
  induction text generalizing units with
  | nil => rfl
  | cons c text ih =>
    have split : encodeChars (c :: text) = encodeChar c ++ encodeChars text := rfl
    rw [split, feed_append, feed_encodeChar, ih]
    simp

@[simp] theorem units_encodeChars (text : List Char) :
    units (encodeChars text) = text.map some := by
  simp [units, feed_encodeChars, finish]

theorem decode?_encode (text : String) : decode? (encode text) = some text := by
  have whole : (text.toList.map some).mapM id = some text.toList := by
    induction text.toList with
    | nil => rfl
    | cons c rest ih => simp [ih]
  simp [decode?, decodeChars?, encode, whole]

theorem decodeLenient_encode (text : String) : decodeLenient (encode text) = text := by
  have whole : text.toList.map (shown ∘ some) = text.toList := List.map_id _
  simp [decodeLenient, encode, List.map_map, whole]

end ContainerLogs.Text.Utf8
