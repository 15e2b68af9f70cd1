import Fastboot.Proofs.Text.Utf8
import Fastboot.Text.Hex
import Mathlib.Algebra.Group.Nat.Defs

/-!
# The values of hexadecimal digits

* `hexValue_append`: the value of a run is its leading part, shifted, plus its trailing part.
* `hexValue_dropWhile_zero`, `hexValue_lt` and `le_hexValue`: zeros in front add nothing, and without
  them the number of digits says how large the value is.
* `hexValue_toList_hex`: what `Text.hex` prints, `Text.hexValue` reads. A number of at most `width` digits
  is printed in just that many (`length_toList_hex`).
-/

namespace Fastboot.Text

/-! ### Reading -/

/-- Reading inverts printing, digit by digit. -/
theorem hexDigit?_digitChar {d : Nat} (h : d < 16) : hexDigit? d.digitChar = some d := by
  have : ∀ d, d < 16 → hexDigit? d.digitChar = some d := by decide
  exact this d h

private theorem hexFold_eq (ds : List Char) (n : Nat) :
    ds.foldl (fun n c => 16 * n + (hexDigit? c).getD 0) n = n * 16 ^ ds.length + hexValue ds := by
  induction ds generalizing n with
  | nil => simp [hexValue]
  | cons c ds ih =>
    rw [hexValue, List.foldl_cons, List.foldl_cons, ih, ih (16 * 0 + _)]
    simp only [List.length_cons, Nat.pow_succ, Nat.mul_zero, Nat.zero_add]
    rw [Nat.add_mul, Nat.mul_comm 16 n, Nat.mul_assoc, Nat.mul_comm 16, Nat.add_assoc]

@[simp]
theorem hexValue_nil : hexValue [] = 0 := rfl

theorem hexValue_cons (c : Char) (ds : List Char) :
    hexValue (c :: ds) = (hexDigit? c).getD 0 * 16 ^ ds.length + hexValue ds := by
  rw [hexValue, List.foldl_cons, hexFold_eq]
  simp

theorem hexDigit?_getD_lt (c : Char) : (hexDigit? c).getD 0 < 16 := by
  unfold hexDigit?
  simp only [Char.le_def, UInt32.le_iff_toNat_le, Char.toNat]
  -- one case for each range of digits, and one for what is no digit
  split
  · rename_i h
    have : '9'.val.toNat = 57 := rfl
    simp only [Option.getD_some]
    omega
  split
  · rename_i h
    have : 'f'.val.toNat = 102 := rfl
    simp only [Option.getD_some]
    omega
  split
  · rename_i h
    have : 'F'.val.toNat = 70 := rfl
    simp only [Option.getD_some]
    omega
  · simp

theorem hexValue_lt (ds : List Char) : hexValue ds < 16 ^ ds.length := by
  induction ds with
  | nil => simp
  | cons c ds ih =>
    have hc := Nat.mul_le_mul_right (16 ^ ds.length) (Nat.le_of_lt_succ (hexDigit?_getD_lt c))
    rw [hexValue_cons, List.length_cons, Nat.pow_succ]
    omega

/-- A digit that is not zero makes the value at least the weight of its place. -/
theorem le_hexValue {c : Char} (ds : List Char) (hc : isHexDigit c = true) (hz : c ≠ '0') :
    16 ^ ds.length ≤ hexValue (c :: ds) := by
  have hpos : 1 ≤ (hexDigit? c).getD 0 := by
    unfold isHexDigit at hc
    unfold hexDigit? at hc ⊢
    have hne : c.val.toNat ≠ '0'.val.toNat := fun h =>
      hz (Char.ext (UInt32.toNat_inj.1 h))
    have h0 : '0'.val.toNat = 48 := rfl
    have ha : 'a'.val.toNat = 97 := rfl
    have hA : 'A'.val.toNat = 65 := rfl
    simp only [Char.le_def, UInt32.le_iff_toNat_le, Char.toNat] at hc ⊢
    split
    · simp only [Option.getD_some]
      omega
    split
    · simp only [Option.getD_some]
      omega
    split
    · simp only [Option.getD_some]
      omega
    · rename_i h₁ h₂ h₃
      rw [if_neg h₁, if_neg h₂, if_neg h₃] at hc
      exact absurd hc (by decide)
  have := Nat.mul_le_mul_right (16 ^ ds.length) hpos
  rw [hexValue_cons]
  omega

theorem hexValue_dropWhile_zero (ds : List Char) :
    hexValue (ds.dropWhile (· == '0')) = hexValue ds := by
  induction ds with
  | nil => rfl
  | cons c ds ih =>
    by_cases hc : c = '0'
    · subst hc
      have hz : hexDigit? '0' = some 0 := rfl
      rw [List.dropWhile_cons_of_pos (by rfl), ih, hexValue_cons, hz]
      simp
    · rw [List.dropWhile_cons_of_neg (by simpa using hc)]

theorem hexValue_append (a b : List Char) :
    hexValue (a ++ b) = hexValue a * 16 ^ b.length + hexValue b := by
  rw [hexValue, List.foldl_append, hexFold_eq b]
  rfl

/-! ### Printing -/

theorem isHexDigit_digitChar {d : Nat} (h : d < 16) : isHexDigit d.digitChar = true := by
  rw [isHexDigit, hexDigit?_digitChar h]
  rfl

/-- The digits of a number are hexadecimal digits, and their value is the number. -/
theorem hexValue_toDigits (n : Nat) :
    hexValue (Nat.toDigits 16 n) = n ∧ ∀ c ∈ Nat.toDigits 16 n, isHexDigit c = true := by
  induction n using Nat.strongRecOn with
  | ind n ih =>
    rcases Nat.lt_or_ge n 16 with hlt | hge
    · rw [Nat.toDigits_of_lt_base hlt]
      refine ⟨?_, fun c hc => ?_⟩
      · rw [hexValue_cons, hexDigit?_digitChar hlt]
        simp
      · rw [List.mem_singleton.mp hc]
        exact isHexDigit_digitChar hlt
    · -- all digits but the last are those of the quotient
      have hlast : n % 16 < 16 := Nat.mod_lt n (by decide)
      obtain ⟨hvalue, hdigits⟩ := ih (n / 16) (Nat.div_lt_self (by omega) (by decide))
      rw [Nat.toDigits_of_base_le (by decide) hge]
      refine ⟨?_, fun c hc => ?_⟩
      · rw [hexValue_append, hvalue, hexValue_cons, hexDigit?_digitChar hlast]
        simp only [List.length_singleton, List.length_nil, hexValue_nil, Option.getD_some]
        omega
      · rcases List.mem_append.mp hc with hfront | hback
        · exact hdigits c hfront
        · rw [List.mem_singleton.mp hback]
          exact isHexDigit_digitChar hlast

variable {width n : Nat}

theorem toList_hex (width n : Nat) : (hex width n).toList =
    List.replicate (width - (Nat.toDigits 16 n).length) '0' ++ Nat.toDigits 16 n :=
  String.toList_ofList

/-- A number is printed in hexadecimal digits. -/
theorem isHexDigit_of_mem_hex {c : Char} (h : c ∈ (hex width n).toList) :
    isHexDigit c = true := by
  rw [toList_hex] at h
  rcases List.mem_append.mp h with hzero | hdigit
  · rw [List.eq_of_mem_replicate hzero]
    rfl
  · exact (hexValue_toDigits n).2 c hdigit

/-- Zeros in front add nothing to a value. -/
theorem hexValue_replicate_zero (k : Nat) (ds : List Char) :
    hexValue (List.replicate k '0' ++ ds) = hexValue ds := by
  induction k with
  | zero => rfl
  | succ k ih =>
    have hzero : (hexDigit? '0').getD 0 = 0 := rfl
    rw [List.replicate_succ, List.cons_append, hexValue_cons, hzero, ih, Nat.zero_mul,
      Nat.zero_add]

/-- **A printed number reads back.** -/
theorem hexValue_toList_hex (width n : Nat) : hexValue (hex width n).toList = n := by
  rw [toList_hex, hexValue_replicate_zero]
  exact (hexValue_toDigits n).1

/-- A number that has at most `width` digits is printed in as many. -/
theorem length_toList_hex (hpos : 0 < width) (h : n < 16 ^ width) :
    (hex width n).toList.length = width := by
  have hlength := (Nat.length_toDigits_le_iff (by decide) hpos).mpr h
  rw [toList_hex, List.length_append, List.length_replicate]
  omega

/-- Hexadecimal digits are ASCII characters. -/
theorem toNat_lt_of_isHexDigit {c : Char} (h : isHexDigit c = true) : c.toNat < 128 := by
  unfold isHexDigit hexDigit? at h
  simp only [Char.le_def, UInt32.le_iff_toNat_le] at h
  have h9 : '9'.val.toNat = 57 := rfl
  have hf : 'f'.val.toNat = 102 := rfl
  have hF : 'F'.val.toNat = 70 := rfl
  show c.val.toNat < 128
  by_contra hlarge
  rw [if_neg (by omega), if_neg (by omega), if_neg (by omega)] at h
  cases h

/-- A digit has the same value in either case. -/
theorem hexDigit?_toUpper {c : Char} (h : isHexDigit c = true) : hexDigit? c.toUpper = hexDigit? c := by
  have hascii : ∀ n < 128, isHexDigit (Char.ofNat n) = true →
      hexDigit? (Char.ofNat n).toUpper = hexDigit? (Char.ofNat n) := by
    decide
  have hc := hascii c.toNat (toNat_lt_of_isHexDigit h)
  rw [Char.ofNat_toNat] at hc
  exact hc h

/-- So a number has the same value in either case. -/
theorem hexValue_map_toUpper {ds : List Char} (h : ∀ c ∈ ds, isHexDigit c = true) :
    hexValue (ds.map Char.toUpper) = hexValue ds := by
  induction ds with
  | nil => rfl
  | cons c ds ih =>
    rw [List.map_cons, hexValue_cons, hexValue_cons, hexDigit?_toUpper (h c List.mem_cons_self),
      ih fun d hd => h d (List.mem_cons_of_mem c hd), List.length_map]

/-- Printed numbers have as many bytes as digits. -/
theorem utf8ByteSize_hex (width n : Nat) :
    (hex width n).utf8ByteSize = (hex width n).toList.length := by
  have hascii : ∀ c ∈ (hex width n).toList, c.toNat < 128 := fun c hc =>
    toNat_lt_of_isHexDigit (isHexDigit_of_mem_hex hc)
  rw [← utf8ByteSize_of_ascii hascii, String.ofList_toList]

end Fastboot.Text
