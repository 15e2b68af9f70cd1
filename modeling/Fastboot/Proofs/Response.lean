import Fastboot.Proofs.Text.Hex
import Fastboot.Response

/-!
# Responses, written and read

`Spells bytes r` is the grammar of responses: `OKAY` or `FAIL` and any text behind it, or `DATA` and a size in
eight hexadecimal digits of either case (`Digits`).

* What a device writes is in the grammar, and reads back: `parse?_text` holds of every response, whether it fits
  a frame or not. With the bound on frames this makes `Response.frame` and `Response.parse?` a codec
  (`frame_codec`). The size of a data phase takes eight bytes whatever it is, so a `DATA` answer always fits
  (`utf8ByteSize_text_data`).
* What a host reads is in the grammar with one exception: a plus sign may stand in the place of the first digit
  of a size (`Signed`, `parse?_grammar`).
-/

namespace Fastboot.Response

open Text

variable {bytes : ByteArray} {r : Response} {size : UInt32} {t : String} {ds : List Char} {count : Nat}

/-! ### Sizes -/

/-- `ds` is a size in `count` hexadecimal digits of either case. -/
structure Digits (count : Nat) (ds : List Char) (size : UInt32) : Prop where
  length_eq : ds.length = count
  isHexDigit : ∀ c ∈ ds, isHexDigit c = true
  hexValue_eq : hexValue ds = size.toNat

theorem toNat_lt_pow (size : UInt32) : size.toNat < 16 ^ 8 :=
  UInt32.toNat_lt size

/-- A size is written in eight digits. -/
theorem digits_hex (size : UInt32) : Digits 8 (hex 8 size.toNat).toList size where
  length_eq := length_toList_hex (by decide) (toNat_lt_pow size)
  isHexDigit _ hc := isHexDigit_of_mem_hex hc
  hexValue_eq := hexValue_toList_hex 8 size.toNat

/-- The size of a data phase takes eight bytes. -/
theorem utf8ByteSize_hex_size (size : UInt32) : (hex 8 size.toNat).utf8ByteSize = 8 := by
  rw [utf8ByteSize_hex, (digits_hex size).length_eq]

/-- A plus sign is no digit. -/
theorem not_digits_plus : ¬ Digits count ('+' :: ds) size := fun h => by
  have hplus : Text.isHexDigit '+' = true := h.isHexDigit '+' List.mem_cons_self
  cases hplus

/-- Eight digits are a size of 32 bits, whichever they are. -/
theorem ofNat_hexValue_eq_iff (hcount : count ≤ 8) (hlength : ds.length = count)
    (hdigits : ∀ c ∈ ds, Text.isHexDigit c = true) :
    UInt32.ofNat (hexValue ds) = size ↔ Digits count ds size := by
  have hlt : hexValue ds < UInt32.size :=
    Nat.lt_of_lt_of_le (hexValue_lt ds) (Nat.pow_le_pow_right (by decide) (hlength ▸ hcount))
  rw [← UInt32.toNat_inj, UInt32.toNat_ofNat_of_lt' hlt]
  exact ⟨fun h => ⟨hlength, hdigits, h⟩, fun h => h.hexValue_eq⟩

/-- A size is read off its digits, if there are as many of them as eight bytes leave room for. -/
theorem size?_iff_of_dropPlus (hds : dropPlus t.toList = ds) (hcount : count ≤ 8)
    (hlength : (∀ c ∈ ds, Text.isHexDigit c = true) → (t.utf8ByteSize = 8 ↔ ds.length = count)) :
    size? t = some size ↔ Digits count ds size := by
  simp only [size?, hds, Option.ite_none_right_eq_some, Option.some.injEq, List.all_eq_true]
  constructor
  · rintro ⟨⟨hbytes, hdigits⟩, hvalue⟩
    exact (ofNat_hexValue_eq_iff hcount ((hlength hdigits).mp hbytes) hdigits).mp hvalue
  · intro h
    exact ⟨⟨(hlength h.isHexDigit).mpr h.length_eq, h.isHexDigit⟩,
      (ofNat_hexValue_eq_iff hcount h.length_eq h.isHexDigit).mpr h⟩

theorem size?_of_plus (ht : t.toList = '+' :: ds) : size? t = some size ↔ Digits 7 ds size := by
  refine size?_iff_of_dropPlus (by rw [ht, dropPlus]) (by decide) fun hdigits => ?_
  have hascii : ∀ c ∈ '+' :: ds, c.toNat < 128 :=
    List.forall_mem_cons.mpr ⟨by decide, fun c hc => toNat_lt_of_isHexDigit (hdigits c hc)⟩
  rw [← String.ofList_toList (s := t), ht, utf8ByteSize_of_ascii hascii, List.length_cons]
  omega

theorem size?_of_ne (hplus : ∀ ds, t.toList ≠ '+' :: ds) :
    size? t = some size ↔ Digits 8 t.toList size := by
  have hds : dropPlus t.toList = t.toList := by
    unfold dropPlus
    split
    · exact absurd ‹_› (hplus _)
    · rfl
  refine size?_iff_of_dropPlus hds (Nat.le_refl 8) fun hdigits => ?_
  have hascii : ∀ c ∈ t.toList, c.toNat < 128 := fun c hc => toNat_lt_of_isHexDigit (hdigits c hc)
  rw [← utf8ByteSize_of_ascii hascii, String.ofList_toList]

/-- A size is read in eight digits, or in seven behind a plus sign. -/
theorem size?_eq_some_iff : size? t = some size ↔
    Digits 8 t.toList size ∨ ∃ ds, t.toList = '+' :: ds ∧ Digits 7 ds size := by
  by_cases hplus : ∃ ds, t.toList = '+' :: ds
  · obtain ⟨ds, ht⟩ := hplus
    rw [size?_of_plus ht, ht]
    constructor
    · exact fun h => .inr ⟨ds, rfl, h⟩
    · rintro (h | ⟨ds', heq, h⟩)
      · exact absurd h not_digits_plus
      · exact List.tail_eq_of_cons_eq heq ▸ h
  · rw [size?_of_ne (not_exists.mp hplus)]
    refine ⟨.inl, fun h => h.resolve_right ?_⟩
    rintro ⟨ds, ht, -⟩
    exact hplus ⟨ds, ht⟩

/-! ### Tags -/

theorem ofText?_okay (value : String) : ofText? ("OKAY" ++ value) = some (okay value) := by
  have hvalue : after? "OKAY" ("OKAY" ++ value) = some value := after?_eq_some_iff.mpr rfl
  simp only [ofText?, hvalue]

theorem ofText?_fail (reason : String) : ofText? ("FAIL" ++ reason) = some (fail reason) := by
  have hokay : after? "OKAY" ("FAIL" ++ reason) = none := by
    simp [after?_eq_none_iff, List.isPrefixOf_cons_cons]
  have hreason : after? "FAIL" ("FAIL" ++ reason) = some reason := after?_eq_some_iff.mpr rfl
  simp only [ofText?, hokay, hreason]

theorem ofText?_data (digits : String) : ofText? ("DATA" ++ digits) = (size? digits).map data := by
  have hokay : after? "OKAY" ("DATA" ++ digits) = none := by
    simp [after?_eq_none_iff, List.isPrefixOf_cons_cons]
  have hfail : after? "FAIL" ("DATA" ++ digits) = none := by
    simp [after?_eq_none_iff, List.isPrefixOf_cons_cons]
  have hdigits : after? "DATA" ("DATA" ++ digits) = some digits := after?_eq_some_iff.mpr rfl
  simp only [ofText?, hokay, hfail, hdigits, Option.bind_some]

/-- A text is read by its tag, and there are three. -/
theorem ofText?_eq_some_iff : ofText? t = some r ↔
    (∃ value, t = "OKAY" ++ value ∧ r = okay value) ∨
      (∃ reason, t = "FAIL" ++ reason ∧ r = fail reason) ∨
      ∃ digits size, t = "DATA" ++ digits ∧ size? digits = some size ∧ r = data size := by
  constructor
  · intro h
    unfold ofText? at h
    split at h
    · rename_i value hvalue
      exact .inl ⟨value, after?_eq_some_iff.mp hvalue, (Option.some.inj h).symm⟩
    split at h
    · rename_i reason hreason
      exact .inr (.inl ⟨reason, after?_eq_some_iff.mp hreason, (Option.some.inj h).symm⟩)
    · obtain ⟨digits, hdigits, hmap⟩ := Option.bind_eq_some_iff.mp h
      obtain ⟨size, hsize, rfl⟩ := Option.map_eq_some_iff.mp hmap
      exact .inr (.inr ⟨digits, size, after?_eq_some_iff.mp hdigits, hsize, rfl⟩)
  · rintro (⟨value, rfl, rfl⟩ | ⟨reason, rfl, rfl⟩ | ⟨digits, size, rfl, hsize, rfl⟩)
    · exact ofText?_okay value
    · exact ofText?_fail reason
    · rw [ofText?_data, hsize, Option.map_some]

theorem parse?_eq_some_iff : parse? bytes = some r ↔ ∃ t, bytes = t.toUTF8 ∧ ofText? t = some r := by
  rw [parse?, Option.bind_eq_some_iff]
  exact exists_congr fun t => and_congr_left' fromUTF8?_eq_some_iff

/-! ### The grammar -/

/-- The bytes of a response: its tag, and behind it any text, or a size in eight digits. -/
def Spells (bytes : ByteArray) : Response → Prop
  | okay value => bytes = "OKAY".toUTF8 ++ value.toUTF8
  | fail reason => bytes = "FAIL".toUTF8 ++ reason.toUTF8
  | data size => ∃ ds, bytes = "DATA".toUTF8 ++ (String.ofList ds).toUTF8 ∧ Digits 8 ds size

/-- The bytes of a `DATA` response with a plus sign and seven digits for the size. -/
def Signed (bytes : ByteArray) (size : UInt32) : Prop :=
  ∃ ds, bytes = "DATA+".toUTF8 ++ (String.ofList ds).toUTF8 ∧ Digits 7 ds size

theorem parse?_okay_iff {value : String} :
    parse? bytes = some (okay value) ↔ Spells bytes (okay value) := by
  simp [parse?_eq_some_iff, ofText?_eq_some_iff, Spells]

theorem parse?_fail_iff {reason : String} :
    parse? bytes = some (fail reason) ↔ Spells bytes (fail reason) := by
  simp [parse?_eq_some_iff, ofText?_eq_some_iff, Spells]

theorem parse?_data_iff :
    parse? bytes = some (data size) ↔ Spells bytes (data size) ∨ Signed bytes size := by
  have hsize : parse? bytes = some (data size) ↔
      ∃ digits, bytes = "DATA".toUTF8 ++ digits.toUTF8 ∧ size? digits = some size := by
    simp [parse?_eq_some_iff, ofText?_eq_some_iff]
  have hplus (ds : List Char) : "DATA".toUTF8 ++ (String.ofList ('+' :: ds)).toUTF8 =
      "DATA+".toUTF8 ++ (String.ofList ds).toUTF8 := by
    have htext : "DATA" ++ String.ofList ('+' :: ds) = "DATA+" ++ String.ofList ds := by
      simp [← String.toList_inj]
    simpa using congrArg String.toUTF8 htext
  rw [hsize]
  constructor
  · rintro ⟨digits, rfl, hread⟩
    rcases size?_eq_some_iff.mp hread with h | ⟨ds, hdigits, h⟩
    · exact .inl ⟨digits.toList, by rw [String.ofList_toList], h⟩
    · exact .inr ⟨ds, by rw [← hplus, ← hdigits, String.ofList_toList], h⟩
  · rintro (⟨ds, rfl, h⟩ | ⟨ds, rfl, h⟩)
    · exact ⟨.ofList ds, rfl, size?_eq_some_iff.mpr (.inl (by rwa [String.toList_ofList]))⟩
    · exact ⟨.ofList ('+' :: ds), (hplus ds).symm,
        size?_eq_some_iff.mpr (.inr ⟨ds, String.toList_ofList, h⟩)⟩

/-- What is read is in the grammar, but for the sign of a size. -/
theorem parse?_iff_spells :
    parse? bytes = some r ↔ Spells bytes r ∨ ∃ size, r = data size ∧ Signed bytes size := by
  cases r with
  | okay value => simp [parse?_okay_iff]
  | fail reason => simp [parse?_fail_iff]
  | data size => simp [parse?_data_iff]

/-- A size with a sign is no text of the grammar. -/
theorem Signed.not_spells (h : Signed bytes size) : ¬ Spells bytes (data size) := by
  obtain ⟨ds, rfl, -⟩ := h
  rintro ⟨ds', hbytes, hdigits⟩
  have htext : "DATA+" ++ String.ofList ds = "DATA" ++ String.ofList ds' :=
    String.toByteArray_inj.mp (by simpa using hbytes)
  have hds : '+' :: ds = ds' := by
    simpa [← String.toList_inj] using htext
  exact not_digits_plus (hds ▸ hdigits)

/-- **What is read.** A response is read exactly where the bytes are its tag and any text, or its tag and a
size in eight hexadecimal digits, or in seven behind a plus sign. All else is no response. So the grammar
decides what is read of all bytes but those with a sign. -/
theorem parse?_grammar (bytes : ByteArray) :
    (∀ value, parse? bytes = some (okay value) ↔ Spells bytes (okay value)) ∧
    (∀ reason, parse? bytes = some (fail reason) ↔ Spells bytes (fail reason)) ∧
    (∀ size, parse? bytes = some (data size) ↔ Spells bytes (data size) ∨ Signed bytes size) ∧
    (parse? bytes = none ↔ (∀ r, ¬ Spells bytes r) ∧ ∀ size, ¬ Signed bytes size) ∧
    ((∀ r, parse? bytes = some r ↔ Spells bytes r) ↔ ∀ size, ¬ Signed bytes size) := by
  refine ⟨fun _ => parse?_okay_iff, fun _ => parse?_fail_iff, fun _ => parse?_data_iff, ?_, ?_⟩
  · rw [Option.eq_none_iff_forall_ne_some]
    constructor
    · intro hnone
      exact ⟨fun r h => hnone r (parse?_iff_spells.mpr (.inl h)),
        fun size h => hnone (data size) (parse?_data_iff.mpr (.inr h))⟩
    · rintro ⟨hspells, hsigned⟩ r hread
      rcases parse?_iff_spells.mp hread with h | ⟨size, -, h⟩
      · exact hspells r h
      · exact hsigned size h
  · constructor
    · intro hgrammar size h
      exact h.not_spells ((hgrammar _).mp (parse?_data_iff.mpr (.inr h)))
    · intro hsigned r
      rw [parse?_iff_spells]
      exact or_iff_left fun ⟨size, _, h⟩ => hsigned size h

/-- **A sign is read.** Seven digits behind a plus sign are taken for a size. -/
theorem parse?_signed : parse? "DATA+0000010".toUTF8 = some (data 16) ∧
    ¬ Spells "DATA+0000010".toUTF8 (data 16) := by
  have hsigned : Signed "DATA+0000010".toUTF8 16 :=
    ⟨['0', '0', '0', '0', '0', '1', '0'], by decide +kernel, rfl, List.all_eq_true.mp rfl, rfl⟩
  exact ⟨parse?_data_iff.mpr (.inr hsigned), hsigned.not_spells⟩

/-! ### What is written -/

/-- What is written is in the grammar. -/
theorem spells_text (r : Response) : Spells r.text.toUTF8 r := by
  cases r with
  | okay value => simp [Spells, text, tag, body]
  | fail reason => simp [Spells, text, tag, body]
  | data size =>
    refine ⟨(hex 8 size.toNat).toList, ?_, digits_hex size⟩
    simp [text, tag, body]

/-- **A response reads back from its text.** -/
theorem parse?_text (r : Response) : parse? r.text.toUTF8 = some r :=
  parse?_iff_spells.mpr (.inl r.spells_text)

/-- The start of a data phase fits a frame. -/
theorem utf8ByteSize_text_data (size : UInt32) :
    (data size).text.utf8ByteSize ≤ Frame.capacity := by
  have hbody : (data size).body.utf8ByteSize = 8 := utf8ByteSize_hex_size size
  rw [text, String.utf8ByteSize_append, utf8ByteSize_tag, hbody]
  decide

/-- **A codec.** A response has no frame exactly if its text takes more than 64 bytes, and the error says how
many. Otherwise its frame has just the bytes of its text, and reads back. So no two responses share a frame. -/
theorem frame_codec (r : Response) :
    (∀ e, r.frame = .error e ↔ 64 < r.text.utf8ByteSize ∧ e = ⟨r.text.utf8ByteSize, 64⟩) ∧
    (∀ f, r.frame = .ok f ↔ r.text.utf8ByteSize ≤ 64 ∧ f.bytes = r.text.toUTF8) ∧
    (∀ f, r.frame = .ok f → parse? f.bytes = some r) ∧
    ∀ f r' f', r.frame = .ok f → r'.frame = .ok f' → f.bytes = f'.bytes → r = r' := by
  have hread {r : Response} {f : Frame} (h : r.frame = .ok f) : parse? f.bytes = some r := by
    rw [Frame.bytes, frame_eq_ok_iff.mp h, parse?_text]
  refine ⟨fun _ => frame_eq_error_iff, fun f => ?_, fun _ => hread, fun f r' f' h h' hsame => ?_⟩
  · rw [frame_eq_ok_iff, Frame.bytes]
    constructor
    · intro htext
      exact ⟨htext ▸ f.fits, congrArg String.toUTF8 htext⟩
    · exact fun h => String.toByteArray_inj.mp h.2
  · exact Option.some.inj ((hread h).symm.trans ((congrArg parse? hsame).trans (hread h')))

/-- A response that fills its frame to the last byte, in characters of more than one. -/
theorem frame_codec_full :
    let r : Response := .okay (.ofList (List.replicate 20 '€'))
    r.text.utf8ByteSize = 64 ∧ ∃ f, r.frame = .ok f ∧ parse? f.bytes = some r ∧
      ∀ r' f', r'.frame = .ok f' → f.bytes = f'.bytes → r = r' := by
  intro r
  have hsize : r.text.utf8ByteSize = 64 := by decide +kernel
  obtain ⟨-, -, hread, hsame⟩ := frame_codec r
  have hframe : r.frame = .ok ⟨r.text, Nat.le_of_eq hsize⟩ := frame_eq_ok_iff.mpr rfl
  exact ⟨hsize, _, hframe, hread _ hframe, fun r' f' => hsame _ r' f' hframe⟩

end Fastboot.Response
