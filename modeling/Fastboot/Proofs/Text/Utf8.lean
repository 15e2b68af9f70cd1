import Mathlib.Data.List.TakeWhile
import Mathlib.Data.Nat.Digits.Defs
import Mathlib.Tactic.Common

/-!
# Texts as bytes

Bytes are read as a text exactly if they are its own (`fromUTF8?_eq_some_iff`), and among them there is
a zero only if the text has a zero character (`takeWhile_toUTF8`), so that a reader that stops at the
first zero byte takes it whole. A text of ASCII characters has as many bytes as characters
(`utf8ByteSize_of_ascii`), and the written form of a number has one per digit
(`utf8ByteSize_toString_le`).
-/

namespace Fastboot.Text

/-- The bytes of a text are the text. -/
@[simp]
theorem fromUTF8?_toUTF8 (s : String) : String.fromUTF8? s.toUTF8 = some s := by
  have hvalid : s.toUTF8.IsValidUTF8 := s.isValidUTF8
  unfold String.fromUTF8?
  rw [dif_pos hvalid]
  rfl

theorem fromUTF8?_eq_some_iff {bytes : ByteArray} {s : String} :
    String.fromUTF8? bytes = some s ↔ bytes = s.toUTF8 := by
  constructor
  · unfold String.fromUTF8?
    split
    · rintro ⟨⟩
      rfl
    · nofun
  · rintro rfl
    exact fromUTF8?_toUTF8 s

/-- Only the zero character is written with a zero byte: all others have their leading bits set in
each byte, or are a byte of their own. -/
theorem zero_notMem_utf8EncodeChar {c : Char} (hc : c ≠ '\x00') :
    0 ∉ String.utf8EncodeChar c := by
  have hval : c.val.toNat ≠ 0 := fun h => hc (Char.ext (UInt32.toNat_inj.mp h))
  rw [String.utf8EncodeChar_eq_utf8EncodeCharFast]
  unfold String.utf8EncodeCharFast
  dsimp only
  split
  · rename_i hsmall
    rw [UInt32.le_iff_toNat_le] at hsmall
    simp only [List.mem_singleton]
    intro hzero
    have htoNat := congrArg UInt8.toNat hzero
    simp only [UInt32.toNat_toUInt8, UInt8.toNat_zero] at htoNat
    have hbound : (0x7f : UInt32).toNat = 127 := rfl
    omega
  · -- a bit that is set on purpose is set in the byte
    have hset (b high : UInt8) (hhigh : high ≠ 0) : 0 ≠ b ||| high := fun h =>
      hhigh (UInt8.or_eq_zero_iff.mp h.symm).2
    split
    · simp [hset]
    · split <;> simp [hset]

/-- A reader that stops at the first zero byte takes a text whole. -/
theorem takeWhile_toUTF8 {s : String} (hs : '\x00' ∉ s.toList) :
    s.toUTF8.data.takeWhile (· != 0) = s.toUTF8.data := by
  have hbytes : s.toUTF8 = (s.toList.flatMap String.utf8EncodeChar).toByteArray :=
    String.utf8Encode_toList.symm
  have hdata : s.toUTF8.data = (s.toList.flatMap String.utf8EncodeChar).toArray := by
    rw [hbytes, List.data_toByteArray]
  rw [hdata, List.takeWhile_toArray]
  congr 1
  rw [List.takeWhile_eq_self_iff]
  intro b hb
  obtain ⟨c, hc, hmem⟩ := List.mem_flatMap.mp hb
  have hne : b ≠ 0 := by
    rintro rfl
    exact zero_notMem_utf8EncodeChar (fun h => hs (h ▸ hc)) hmem
  simpa using hne

/-- A text of ASCII characters has as many bytes as characters. -/
theorem utf8ByteSize_of_ascii {cs : List Char} (h : ∀ c ∈ cs, c.toNat < 128) :
    (String.ofList cs).utf8ByteSize = cs.length := by
  induction cs with
  | nil => rfl
  | cons c cs ih =>
    have hone : c.utf8Size = 1 := by
      have hc := h c List.mem_cons_self
      have hle : c.val ≤ 0x7f := UInt32.le_iff_toNat_le.mpr (Nat.le_of_lt_succ hc)
      simp [Char.utf8Size, hle]
    have hcons : String.ofList (c :: cs) = String.singleton c ++ String.ofList cs := by
      rw [← String.toList_inj]
      simp
    rw [hcons, String.utf8ByteSize_append, String.utf8ByteSize_singleton, hone,
      ih fun d hd => h d (List.mem_cons_of_mem _ hd), List.length_cons, Nat.add_comm]

/-- A number below a power of ten takes at most as many bytes as its exponent says. -/
theorem utf8ByteSize_toString_le {n e : Nat} (he : 0 < e) (hn : n < 10 ^ e) :
    (toString n).utf8ByteSize ≤ e := by
  have hascii : ∀ c ∈ Nat.toDigits 10 n, c.toNat < 128 := fun c hc => by
    have hdigit := Nat.isDigit_of_mem_toDigits (by decide) (by decide) hc
    have hle : c.val ≤ '9'.val := (Char.isDigit_iff_toNat.mp hdigit).2
    exact Nat.lt_of_le_of_lt (UInt32.le_iff_toNat_le.mp hle) (by decide)
  have hsize : (toString n).utf8ByteSize = (Nat.toDigits 10 n).length :=
    utf8ByteSize_of_ascii hascii
  rw [hsize]
  exact Nat.toDigits_length 10 n e he hn

end Fastboot.Text
