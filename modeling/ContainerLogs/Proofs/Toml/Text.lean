import ContainerLogs.Toml.Text

/-!
Texts are read as they were written. Each character comes back from its escape, and the closing
quote of a text is the first that stands without one, whatever characters the text holds.
-/
namespace ContainerLogs.Toml.TextForm

private theorem hexValue?_hexDigit : ∀ n < 16, hexValue? (Text.hexDigit n) = some n := by decide

private theorem length_hexDigits (width n : Nat) : (Text.hexDigits width n).length = width := by
  induction width generalizing n with
  | zero => rfl
  | succ width ih => simp [Text.hexDigits, ih]

/-- The digits of a number stand for their places. -/
theorem mapM_hexDigits (n : Nat) : (Text.hexDigits 4 n).mapM hexValue? =
    some [n / 4096 % 16, n / 256 % 16, n / 16 % 16, n % 16] := by
  have value (k : Nat) : hexValue? (Text.hexDigit (k % 16)) = some (k % 16) :=
    hexValue?_hexDigit _ (Nat.mod_lt _ (by decide))
  simp [Text.hexDigits, value, Nat.div_div_eq_div_mul]

private theorem scalar?_hexDigits {c : Char} (low : c.toNat < 65536) :
    scalar? (Text.hexDigits 4 c.toNat) = some c := by
  have valid : c.toNat.isValidChar := c.valid
  have whole : 16 * (16 * (16 * (c.toNat / 4096 % 16) + c.toNat / 256 % 16) + c.toNat / 16 % 16) +
      c.toNat % 16 = c.toNat := by omega
  simp [scalar?, mapM_hexDigits, whole, valid, Char.ofNat_toNat]

private theorem escape?_number {c : Char} (low : c.toNat < 65536) (rest : List Char) :
    escape? ('u' :: Text.hexDigits 4 c.toNat ++ rest) = some (c, rest) := by
  have length := length_hexDigits 4 c.toNat
  have width : escapeWidth 'u' = 4 := rfl
  simp [escape?, width, length, scalar?_hexDigits low]

private theorem readBasic_escape {chars rest : List Char} {c : Char}
    (escaped : escape? chars = some (c, rest)) :
    readBasic ('\\' :: chars) = (readBasic rest).map fun (text, rest) => (c :: text, rest) := by
  rw [readBasic, if_neg (by decide), if_pos rfl]
  split
  · rename_i unread
    rw [escaped] at unread
    cases unread
  · rename_i read
    rw [escaped] at read
    cases read
    rfl

/-- A character is read as it was written. -/
private theorem readBasic_escapedChar (c : Char) (rest : List Char) :
    readBasic (escapedChar c ++ rest) =
      (readBasic rest).map fun (text, rest) => (c :: text, rest) := by
  unfold escapedChar
  split
  · rename_i marked
    refine readBasic_escape ?_
    rcases marked with rfl | rfl <;> rfl
  split
  · rename_i newline
    subst newline
    exact readBasic_escape rfl
  split
  · rename_i carriage
    subst carriage
    exact readBasic_escape rfl
  split
  · rename_i backspace
    obtain rfl : c = Char.ofNat 8 := by rw [← backspace, Char.ofNat_toNat]
    exact readBasic_escape rfl
  split
  · rename_i feed
    obtain rfl : c = Char.ofNat 12 := by rw [← feed, Char.ofNat_toNat]
    exact readBasic_escape rfl
  split
  · rename_i forbidden
    have low : c.toNat < 65536 := by
      simp only [isForbidden, isControl, decide_eq_true_eq] at forbidden
      omega
    exact readBasic_escape (escape?_number low rest)
  · rename_i unmarked _ _ _ _ allowed
    obtain ⟨quote, backslash⟩ := not_or.1 unmarked
    rw [List.singleton_append, readBasic, if_neg quote, if_neg backslash, if_neg allowed]

private theorem readBasic_written (text rest : List Char) :
    readBasic (text.flatMap escapedChar ++ '"' :: rest) = .ok (text, rest) := by
  induction text with
  | nil => rw [List.flatMap_nil, List.nil_append, readBasic, if_pos rfl]
  | cons c text ih =>
    rw [List.flatMap_cons, List.append_assoc, readBasic_escapedChar, ih]
    rfl

/-- A written character does not begin with a quote. -/
private theorem head?_escapedChar (c : Char) :
    ∃ first more, escapedChar c = first :: more ∧ first ≠ '"' := by
  unfold escapedChar
  split
  · exact ⟨_, _, rfl, by decide⟩
  split
  · exact ⟨_, _, rfl, by decide⟩
  split
  · exact ⟨_, _, rfl, by decide⟩
  split
  · exact ⟨_, _, rfl, by decide⟩
  split
  · exact ⟨_, _, rfl, by decide⟩
  split
  · exact ⟨_, _, rfl, by decide⟩
  · rename_i unmarked _ _ _ _ _
    exact ⟨c, [], rfl, fun quote => unmarked (.inl quote)⟩

/-- A written text is read back, if no further quote stands right behind it. -/
theorem read?_written (text : List Char) {rest : List Char} (apart : rest.head? ≠ some '"') :
    read? (writtenChars text ++ rest) = some (.ok (text, rest)) := by
  have basic := readBasic_written text rest
  have chars : writtenChars text ++ rest = '"' :: (text.flatMap escapedChar ++ '"' :: rest) := by
    simp [writtenChars]
  rw [chars]
  suffices ∀ more, text.flatMap escapedChar ++ '"' :: rest ≠ '"' :: '"' :: more by
    unfold read?
    split
    · rename_i more same
      exact absurd (List.cons.inj same).2 (this more)
    · rename_i same
      rw [← (List.cons.inj same).2, basic]
    · rename_i same
      cases (List.cons.inj same).1
    · rename_i same
      cases (List.cons.inj same).1
    · rename_i other _ _
      exact absurd rfl (other _)
  intro more same
  cases text with
  | nil =>
    simp only [List.flatMap_nil, List.nil_append] at same
    rw [(List.cons.inj same).2] at apart
    exact apart rfl
  | cons c text =>
    obtain ⟨first, others, written, other⟩ := head?_escapedChar c
    rw [List.flatMap_cons, written] at same
    exact other (List.cons.inj same).1

private theorem hexDigit_ne_return : ∀ n < 16, Text.hexDigit n ≠ '\r' := by decide

private theorem return_not_mem_hexDigits (width n : Nat) : '\r' ∉ Text.hexDigits width n := by
  induction width generalizing n with
  | zero => exact List.not_mem_nil
  | succ width ih =>
    have last := hexDigit_ne_return (n % 16) (Nat.mod_lt _ (by decide))
    simp [Text.hexDigits, ih, last.symm]

/-- No carriage return is written as it is, so none is taken for part of a line end. -/
private theorem return_not_mem_escapedChar (c : Char) : '\r' ∉ escapedChar c := by
  unfold escapedChar
  split
  · rename_i marked
    rcases marked with rfl | rfl <;> decide
  split
  · decide
  split
  · decide
  split
  · decide
  split
  · decide
  split
  · simp [return_not_mem_hexDigits]
  · rename_i other _ _ _
    simpa using Ne.symm other

theorem return_not_mem_writtenChars (text : List Char) : '\r' ∉ writtenChars text := by
  simp [writtenChars, return_not_mem_escapedChar]

end ContainerLogs.Toml.TextForm
