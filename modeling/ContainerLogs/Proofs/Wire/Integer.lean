import ContainerLogs.Wire.Integer
import Mathlib.Data.List.Induction
import Mathlib.Tactic.Ring

/-!
Integers come back from their wire form as they were, as long as they fit its width, and every byte
string of a width is the wire form of one of them.
-/
namespace ContainerLogs.Wire

@[simp] theorem natOf_concat (bytes : Bytes) (octet : UInt8) :
    natOf (bytes ++ [octet]) = 256 * natOf bytes + octet.toNat := by
  simp [natOf, List.foldl_append]

private theorem natOf_octets (width n : Nat) : natOf (octets width n) = n % 256 ^ width := by
  induction width generalizing n with
  | zero =>
    rw [Nat.pow_zero, Nat.mod_one]
    rfl
  | succ width ih =>
    have low : (UInt8.ofNat n).toNat = n % 256 := UInt8.toNat_ofNat'
    rw [octets, natOf_concat, ih, low, Nat.pow_succ, Nat.mul_comm (256 ^ width) 256, Nat.mod_mul,
      Nat.add_comm]

/-- A width holds twice as many values as it has numbers from zero on. -/
private theorem two_half {width : Nat} (positive : 0 < width) : 256 ^ width = 2 * half width := by
  obtain ⟨k, rfl⟩ : ∃ k, width = k + 1 := ⟨width - 1, by omega⟩
  have bits : 8 * (k + 1) - 1 = 8 * k + 7 := by omega
  rw [half, Nat.pow_eq, bits, Nat.pow_add 2 (8 * k) 7, Nat.pow_mul 2 8 k, Nat.pow_succ]
  norm_num
  ring

theorem signedOf_signed {width : Nat} {n : Int} (positive : 0 < width) (h : fits width n = true) :
    signedOf (signed width n) = n := by
  have values := two_half positive
  simp only [fits, Bool.decide_and, Bool.and_eq_true, decide_eq_true_eq] at h
  have half_pos : 0 < half width := Nat.two_pow_pos _
  have bound : ((256 ^ width : Nat) : Int) = 2 * (half width : Int) := by exact_mod_cast values
  have wrapped : (natOf (signed width n) : Int) = n % (256 ^ width : Nat) := by
    have nonneg : 0 ≤ n % ((256 ^ width : Nat) : Int) := Int.emod_nonneg _ (by omega)
    have below : n % ((256 ^ width : Nat) : Int) < (256 ^ width : Nat) :=
      Int.emod_lt_of_pos _ (by omega)
    rw [signed, Nat.pow_eq, natOf_octets, Nat.mod_eq_of_lt (by omega), Int.toNat_of_nonneg nonneg]
  simp only [signedOf, length_signed, Nat.pow_eq]
  rcases Int.lt_or_le n 0 with negative | nonneg
  · have value : n % ((256 ^ width : Nat) : Int) = n + (256 ^ width : Nat) := by
      rw [← Int.add_emod_right, Int.emod_eq_of_lt (by omega) (by omega)]
    rw [value] at wrapped
    rw [if_neg (by omega)]
    omega
  · have value : n % ((256 ^ width : Nat) : Int) = n := Int.emod_eq_of_lt nonneg (by omega)
    rw [value] at wrapped
    rw [if_pos (by omega), wrapped]

private theorem natOf_lt (bytes : Bytes) : natOf bytes < 256 ^ bytes.length := by
  induction bytes using List.reverseRecOn with
  | nil => decide
  | append_singleton bytes octet ih =>
    have digit : octet.toNat < 256 := octet.toNat_lt
    rw [natOf_concat, List.length_append, List.length_singleton, Nat.pow_succ]
    omega

private theorem octets_natOf (bytes : Bytes) : octets bytes.length (natOf bytes) = bytes := by
  induction bytes using List.reverseRecOn with
  | nil => rfl
  | append_singleton bytes octet ih =>
    have digit : octet.toNat < 256 := octet.toNat_lt
    have front : (256 * natOf bytes + octet.toNat) / 256 = natOf bytes := by omega
    have last : UInt8.ofNat (256 * natOf bytes + octet.toNat) = octet := by
      apply UInt8.toNat.inj
      rw [UInt8.toNat_ofNat']
      omega
    rw [natOf_concat, List.length_append, List.length_singleton, octets, front, ih, last]

/-- Every byte string of a width is the wire form of the number that it stands for. -/
theorem signed_signedOf {bytes : Bytes} (nonempty : bytes ≠ []) :
    fits bytes.length (signedOf bytes) = true ∧ signed bytes.length (signedOf bytes) = bytes := by
  have values := two_half (List.length_pos_iff.2 nonempty)
  have below := natOf_lt bytes
  have half_pos : 0 < half bytes.length := Nat.two_pow_pos _
  have bound : ((256 ^ bytes.length : Nat) : Int) = 2 * (half bytes.length : Int) := by
    exact_mod_cast values
  have same := octets_natOf bytes
  simp only [fits, Bool.decide_and, Bool.and_eq_true, decide_eq_true_eq, signed, signedOf,
    Nat.pow_eq]
  by_cases nonneg : natOf bytes < half bytes.length
  · rw [if_pos nonneg, Int.emod_eq_of_lt (by omega) (by omega), Int.toNat_natCast]
    exact ⟨by omega, same⟩
  · have wrapped : ((natOf bytes : Int) - (256 ^ bytes.length : Nat)) % (256 ^ bytes.length : Nat) =
        natOf bytes := by
      rw [Int.sub_emod_right, Int.emod_eq_of_lt (by omega) (by omega)]
    rw [if_neg nonneg, wrapped, Int.toNat_natCast]
    exact ⟨by omega, same⟩

/-- Bytes that are not fewer than a width start with a number of that width. -/
theorem exists_signed {width : Nat} {bytes : Bytes} (positive : 0 < width)
    (enough : width ≤ bytes.length) :
    ∃ n, fits width n = true ∧ bytes = signed width n ++ bytes.drop width := by
  have length : (bytes.take width).length = width := List.length_take_of_le enough
  have nonempty : bytes.take width ≠ [] := by
    rw [← List.length_pos_iff, length]
    exact positive
  obtain ⟨inRange, same⟩ := signed_signedOf nonempty
  rw [length] at inRange same
  exact ⟨_, inRange, by rw [same, List.take_append_drop]⟩

theorem int?_of_fits {n : Int} (h : fits intWidth n = true) : int? n = .ok (int n) := by
  rw [int?, signed?, if_pos h, int]

theorem long?_of_fits {n : Int} (h : fits longWidth n = true) : long? n = .ok (long n) := by
  rw [long?, signed?, if_pos h, long]

theorem int?_eq_ok {n : Int} {bytes : Bytes} (h : int? n = .ok bytes) :
    fits intWidth n = true ∧ bytes = int n := by
  unfold int? signed? at h
  split at h
  · rename_i inRange
    exact ⟨inRange, (Except.ok.inj h).symm⟩
  · cases h

theorem long?_eq_ok {n : Int} {bytes : Bytes} (h : long? n = .ok bytes) :
    fits longWidth n = true ∧ bytes = long n := by
  unfold long? signed? at h
  split at h
  · rename_i inRange
    exact ⟨inRange, (Except.ok.inj h).symm⟩
  · cases h

theorem counted?_of_fits {bytes : Bytes} (h : fits intWidth bytes.length = true) :
    counted? bytes = .ok (counted bytes) := by
  rw [counted?, int?_of_fits h]
  rfl

theorem counted?_of_unfit {bytes : Bytes} (h : ¬ fits intWidth bytes.length = true) :
    counted? bytes = .error ⟨intWidth, bytes.length⟩ := by
  rw [counted?, int?, signed?, if_neg h]
  rfl

theorem long?_of_unfit {n : Int} (h : ¬ fits longWidth n = true) :
    long? n = .error ⟨longWidth, n⟩ := by
  rw [long?, signed?, if_neg h]

private theorem fits_natCast (width n : Nat) : fits width n = true ↔ n < half width := by
  simp only [fits, Bool.decide_and, Bool.and_eq_true, decide_eq_true_eq]
  omega

theorem fits_int_natCast (n : Nat) : fits intWidth n = true ↔ n < 2 ^ 31 := fits_natCast intWidth n

theorem fits_long_natCast (n : Nat) : fits longWidth n = true ↔ n < 2 ^ 63 :=
  fits_natCast longWidth n

theorem signedOf_int {n : Int} (h : fits intWidth n = true) : signedOf (int n) = n :=
  signedOf_signed (by decide) h

theorem signedOf_long {n : Int} (h : fits longWidth n = true) : signedOf (long n) = n :=
  signedOf_signed (by decide) h

theorem int_append_inj {n m : Int} {back back' : Bytes} (inRange : fits intWidth n = true)
    (inRange' : fits intWidth m = true) (same : int n ++ back = int m ++ back') :
    n = m ∧ back = back' := by
  obtain ⟨fronts, backs⟩ := List.append_inj same (by rw [length_int, length_int])
  have numbers := congrArg signedOf fronts
  rw [signedOf_int inRange, signedOf_int inRange'] at numbers
  exact ⟨numbers, backs⟩

theorem long_append_inj {n m : Int} {back back' : Bytes} (inRange : fits longWidth n = true)
    (inRange' : fits longWidth m = true) (same : long n ++ back = long m ++ back') :
    n = m ∧ back = back' := by
  obtain ⟨fronts, backs⟩ := List.append_inj same (by rw [length_long, length_long])
  have numbers := congrArg signedOf fronts
  rw [signedOf_long inRange, signedOf_long inRange'] at numbers
  exact ⟨numbers, backs⟩

/-- Where bytes end that stand behind their number is told by the number alone. -/
theorem counted_append_inj {bytes bytes' back back' : Bytes}
    (inRange : fits intWidth bytes.length = true) (inRange' : fits intWidth bytes'.length = true)
    (same : counted bytes ++ back = counted bytes' ++ back') : bytes = bytes' ∧ back = back' := by
  simp only [counted, List.append_assoc] at same
  obtain ⟨lengths, behind⟩ := int_append_inj inRange inRange' same
  exact List.append_inj behind (Int.ofNat.inj lengths)

/-- Behind a length there are fewer bytes than it says, or there is what it counts. -/
theorem short_or_counted {length : Nat} (inRange : fits intWidth length = true) (bytes : Bytes) :
    bytes.length < length ∨ ∃ front back, fits intWidth front.length = true ∧
      int length ++ bytes = counted front ++ back := by
  by_cases short : bytes.length < length
  · exact .inl short
  have front_length : (bytes.take length).length = length :=
    List.length_take_of_le (Nat.le_of_not_lt short)
  refine .inr ⟨bytes.take length, bytes.drop length, ?_, ?_⟩
  · rw [front_length]
    exact inRange
  · rw [counted, front_length, List.append_assoc, List.take_append_drop]

end ContainerLogs.Wire
