import Fastboot.Command.Size
import Fastboot.Proofs.Text.Hex
import Fastboot.Text.Parts

/-!
# Sizes read

A size is refused only if it does not fit in 64 bits, whatever the number of its digits (`parseSize?_eq`).

What the digits are is said by a `Spelling`: a text in the parts of a size, with blanks before the digits, a
mark, and a rest behind them. Every text has one (`Spelling.exists_text_eq`), and the value of its digits is
what is read (`Spelling.parseSize?_text`). A size that was printed is read as it was meant, with or without zeros
in front, with or without the mark of a hexadecimal number (`parseSize?_printed`), and in capitals too
(`parseSize?_toUpper`).
-/

namespace Fastboot

namespace Text

/-- No digit is a blank. -/
theorem isBlank_of_isHexDigit {c : Char} (h : isHexDigit c = true) : isBlank c = false := by
  have hlt := toNat_lt_of_isHexDigit h
  have hgt : 32 < c.toNat := by
    unfold isHexDigit hexDigit? at h
    simp only [Char.le_def, UInt32.le_iff_toNat_le] at h
    have h0 : '0'.val.toNat = 48 := rfl
    have ha : 'a'.val.toNat = 97 := rfl
    have hA : 'A'.val.toNat = 65 := rfl
    show 32 < c.val.toNat
    by_contra hsmall
    rw [if_neg (by omega), if_neg (by omega), if_neg (by omega)] at h
    cases h
  simp only [isBlank, blankRanges, List.any_cons, List.any_nil, Bool.or_false,
    Bool.or_eq_false_iff, Bool.and_eq_false_imp, decide_eq_true_eq, decide_eq_false_iff_not]
  omega

end Text

namespace Command

open Text

section Head

variable {p : Char → Bool} {cs : List Char}

theorem dropWhile_of_head? (h : ∀ c ∈ cs.head?, p c = false) : cs.dropWhile p = cs := by
  cases cs with
  | nil => rfl
  | cons c cs => rw [List.dropWhile_cons_of_neg (by simp [h c rfl])]

theorem takeWhile_of_head? (h : ∀ c ∈ cs.head?, p c = false) : cs.takeWhile p = [] := by
  cases cs with
  | nil => rfl
  | cons c cs => rw [List.takeWhile_cons_of_neg (by simp [h c rfl])]

end Head

/-- **What sizes are read.** Zeros in front do not count, so digits may be as many as they like. -/
theorem parseSize?_eq (t : String) :
    parseSize? t = if hexValue (sizeDigits t) < UInt64.size then some (hexValue (sizeDigits t))
      else none := by
  have hdigits : ∀ c ∈ sizeDigits t, isHexDigit c = true := fun c hc =>
    List.all_eq_true.1 List.all_takeWhile c hc
  unfold parseSize?
  rw [← hexValue_dropWhile_zero]
  generalize hds : (sizeDigits t).dropWhile (· == '0') = ds
  have hfits : ds.length ≤ 16 ↔ hexValue ds < UInt64.size := by
    have hsize : UInt64.size = 16 ^ 16 := rfl
    rw [hsize]
    refine ⟨fun h => ?_, fun h => ?_⟩
    · exact Nat.lt_of_lt_of_le (hexValue_lt ds) (Nat.pow_le_pow_right (by decide) h)
    · -- without zeros in front, one digit more is a value of that weight at least
      refine Decidable.byContradiction fun hlen => ?_
      cases ds with
      | nil => exact hlen (Nat.zero_le _)
      | cons c r =>
        have hmem : c ∈ sizeDigits t :=
          (List.dropWhile_suffix _).mem (hds ▸ List.mem_cons_self)
        have hz : c ≠ '0' := by
          have := List.head?_dropWhile_not (· == '0') (sizeDigits t)
          rw [hds] at this
          simpa using this
        have hle := le_hexValue r (hdigits c hmem) hz
        have hpow : 16 ^ 16 ≤ 16 ^ r.length :=
          Nat.pow_le_pow_right (by decide) (by simp only [List.length_cons] at hlen; omega)
        omega
  simp only [hfits]

theorem parseSize?_eq_none_iff {t : String} :
    parseSize? t = none ↔ UInt64.size ≤ hexValue (sizeDigits t) := by
  rw [parseSize?_eq]
  split
  · rename_i hlt
    exact iff_of_false nofun (Nat.not_le_of_lt hlt)
  · rename_i hge
    exact iff_of_true rfl (Nat.le_of_not_lt hge)

/-! ### Spellings -/

/-- What may stand before the digits of a number, to mark it as hexadecimal. -/
def hexMarks : List String :=
  ["", "0x", "0X"]

/-- A text in the parts of a size: blanks, a mark, digits, and anything behind them. What stands behind the
blanks is no blank, and is marked if it looks so. -/
structure Spelling where
  blanks : String
  mark : String
  digits : String
  rest : String
  isBlank_of_mem : ∀ c ∈ blanks.toList, isBlank c = true
  mark_mem : mark ∈ hexMarks
  isHexDigit_of_mem : ∀ c ∈ digits.toList, isHexDigit c = true
  /-- The digits do not go on. -/
  isHexDigit_of_head : ∀ c ∈ rest.toList.head?, isHexDigit c = false
  /-- What has no mark does not start with one. -/
  after?_eq_none : mark = "" →
    after? "0x" (digits ++ rest) = none ∧ after? "0X" (digits ++ rest) = none
  /-- Nor do the blanks go on. -/
  isBlank_of_head : mark = "" → digits = "" → ∀ c ∈ rest.toList.head?, isBlank c = false

namespace Spelling

def text (s : Spelling) : String :=
  s.blanks ++ s.mark ++ s.digits ++ s.rest

/-- The value of the digits. -/
def value (s : Spelling) : Nat :=
  hexValue s.digits.toList

/-- Behind the blanks there is none. -/
theorem isBlank_of_head_marked (s : Spelling) :
    ∀ c ∈ (s.mark.toList ++ (s.digits.toList ++ s.rest.toList)).head?, isBlank c = false := by
  have hmark := s.mark_mem
  simp only [hexMarks, List.mem_cons, List.not_mem_nil, or_false] at hmark
  rcases hmark with hnone | hmark | hmark
  · have hdigits := s.isHexDigit_of_mem
    have hrest := s.isBlank_of_head hnone
    rw [hnone, String.toList_empty, List.nil_append]
    cases hlist : s.digits.toList with
    | nil => exact hrest (String.toList_eq_nil_iff.mp hlist)
    | cons d ds =>
      rintro c ⟨⟩
      exact isBlank_of_isHexDigit (hdigits d (by simp [hlist]))
  · rw [hmark]
    rintro c ⟨⟩
    decide
  · rw [hmark]
    rintro c ⟨⟩
    decide

/-- A mark is taken off, and nothing else is taken for one. -/
theorem dropHexMark_marked (s : Spelling) :
    dropHexMark (s.mark.toList ++ (s.digits.toList ++ s.rest.toList)) =
      s.digits.toList ++ s.rest.toList := by
  have hmark := s.mark_mem
  simp only [hexMarks, List.mem_cons, List.not_mem_nil, or_false] at hmark
  rcases hmark with hnone | hmark | hmark
  · obtain ⟨hlower, hupper⟩ := s.after?_eq_none hnone
    rw [after?_eq_none_iff, String.toList_append] at hlower hupper
    rw [hnone, String.toList_empty, List.nil_append]
    unfold dropHexMark
    split
    · rename_i cs hcs
      rw [hcs] at hlower
      exact absurd hlower (by simp)
    · rename_i cs hcs
      rw [hcs] at hupper
      exact absurd hupper (by simp)
    · rfl
  · rw [hmark]
    rfl
  · rw [hmark]
    rfl

/-- The digits are read, and nothing before or behind them. -/
theorem sizeDigits_text (s : Spelling) : sizeDigits s.text = s.digits.toList := by
  have hlist : s.text.toList =
      s.blanks.toList ++ (s.mark.toList ++ (s.digits.toList ++ s.rest.toList)) := by
    simp only [text, String.toList_append, List.append_assoc]
  have hblank : s.text.toList.dropWhile isBlank =
      s.mark.toList ++ (s.digits.toList ++ s.rest.toList) := by
    rw [hlist, List.dropWhile_append_of_pos s.isBlank_of_mem]
    exact dropWhile_of_head? s.isBlank_of_head_marked
  rw [sizeDigits, hblank, dropHexMark_marked, List.takeWhile_append_of_pos s.isHexDigit_of_mem,
    takeWhile_of_head? s.isHexDigit_of_head, List.append_nil]

/-- **The digits decide**, by their value and not by their number. -/
theorem parseSize?_text (s : Spelling) :
    parseSize? s.text = if s.value < UInt64.size then some s.value else none := by
  rw [parseSize?_eq, sizeDigits_text, value]

/-- A text starts with a mark, or none is taken off. -/
theorem exists_mark (cs : List Char) : ∃ mark ∈ hexMarks, cs = mark.toList ++ dropHexMark cs ∧
    (mark = "" → "0x".toList.isPrefixOf cs = false ∧ "0X".toList.isPrefixOf cs = false) := by
  unfold dropHexMark
  split
  · exact ⟨"0x", by decide, rfl, nofun⟩
  · exact ⟨"0X", by decide, rfl, nofun⟩
  · rename_i hlower hupper
    refine ⟨"", by decide, rfl, fun _ => ⟨?_, ?_⟩⟩
    · rw [Bool.eq_false_iff, ne_eq, List.isPrefixOf_iff_prefix]
      rintro ⟨rest, rfl⟩
      exact hlower rest rfl
    · rw [Bool.eq_false_iff, ne_eq, List.isPrefixOf_iff_prefix]
      rintro ⟨rest, rfl⟩
      exact hupper rest rfl

/-- **Every text has a spelling.** -/
theorem exists_text_eq (t : String) : ∃ s : Spelling, s.text = t := by
  have hblank := List.head?_dropWhile_not isBlank t.toList
  obtain ⟨mark, hmem, hmark, hnone⟩ := exists_mark (t.toList.dropWhile isBlank)
  generalize dropHexMark (t.toList.dropWhile isBlank) = cs at hmark
  have hrest := List.head?_dropWhile_not isHexDigit cs
  have hdigits := List.takeWhile_append_dropWhile (p := isHexDigit) (l := cs)
  have htext : (String.ofList (cs.takeWhile isHexDigit) ++
      String.ofList (cs.dropWhile isHexDigit)).toList = cs := by
    rw [String.toList_append, String.toList_ofList, String.toList_ofList, hdigits]
  refine ⟨{
    blanks := String.ofList (t.toList.takeWhile isBlank)
    mark
    digits := String.ofList (cs.takeWhile isHexDigit)
    rest := String.ofList (cs.dropWhile isHexDigit)
    isBlank_of_mem := fun c hc => ?_
    mark_mem := hmem
    isHexDigit_of_mem := fun c hc => ?_
    isHexDigit_of_head := fun c hc => ?_
    after?_eq_none := fun hempty => ?_
    isBlank_of_head := fun hempty hnodigits c hc => ?_ }, ?_⟩
  · rw [String.toList_ofList] at hc
    exact List.all_eq_true.mp List.all_takeWhile c hc
  · rw [String.toList_ofList] at hc
    exact List.all_eq_true.mp List.all_takeWhile c hc
  · rw [String.toList_ofList, Option.mem_def] at hc
    rwa [hc] at hrest
  · subst hempty
    rw [String.toList_empty, List.nil_append] at hmark
    rw [after?_eq_none_iff, after?_eq_none_iff, htext, ← hmark]
    exact hnone rfl
  · -- without a mark and without digits, the rest is all that stands behind the blanks
    subst hempty
    have hnil := congrArg String.toList hnodigits
    rw [String.toList_ofList, String.toList_empty] at hnil
    rw [hnil, List.nil_append] at hdigits
    rw [String.toList_empty, List.nil_append] at hmark
    rw [String.toList_ofList, hdigits, ← hmark, Option.mem_def] at hc
    rwa [hc] at hblank
  · rw [← String.toList_inj]
    simp only [text, String.append_assoc, String.toList_append, htext, String.toList_ofList]
    rw [← hmark, List.takeWhile_append_dropWhile]

/-- Digits behind a mark, and nothing else. -/
def ofDigits (mark digits : String) (hmark : mark ∈ hexMarks)
    (hdigits : ∀ c ∈ digits.toList, isHexDigit c = true) : Spelling where
  blanks := ""
  mark
  digits
  rest := ""
  isBlank_of_mem := nofun
  mark_mem := hmark
  isHexDigit_of_mem := hdigits
  isHexDigit_of_head := nofun
  after?_eq_none := fun _ => by
    rw [String.append_empty]
    constructor
    · by_contra hmarked
      obtain ⟨rest, hrest⟩ := Option.ne_none_iff_exists'.mp hmarked
      have hletter : isHexDigit 'x' = true := hdigits 'x' (by simp [after?_eq_some_iff.mp hrest])
      cases hletter
    · by_contra hmarked
      obtain ⟨rest, hrest⟩ := Option.ne_none_iff_exists'.mp hmarked
      have hletter : isHexDigit 'X' = true := hdigits 'X' (by simp [after?_eq_some_iff.mp hrest])
      cases hletter
  isBlank_of_head := nofun

theorem text_ofDigits {mark digits : String} (hmark : mark ∈ hexMarks)
    (hdigits : ∀ c ∈ digits.toList, isHexDigit c = true) :
    (ofDigits mark digits hmark hdigits).text = mark ++ digits := by
  simp [text, ofDigits]

end Spelling

/-! ### Printed sizes -/

/-- Digits are read to their end. -/
theorem parseSize?_of_isHexDigit {mark digits : String} (hmark : mark ∈ hexMarks)
    (hdigits : ∀ c ∈ digits.toList, isHexDigit c = true) : parseSize? (mark ++ digits) =
      if hexValue digits.toList < UInt64.size then some (hexValue digits.toList) else none := by
  rw [← Spelling.text_ofDigits hmark hdigits]
  exact Spelling.parseSize?_text _

/-- **A size reads back as it was printed**, with zeros in front or without, and behind any mark. -/
theorem parseSize?_printed {mark : String} {n : Nat} (hmark : mark ∈ hexMarks) (width : Nat)
    (h : n < UInt64.size) : parseSize? (mark ++ hex width n) = some n := by
  rw [parseSize?_of_isHexDigit hmark fun _ hc => isHexDigit_of_mem_hex hc, hexValue_toList_hex,
    if_pos h]

theorem parseSize?_hex {n : Nat} (width : Nat) (h : n < UInt64.size) :
    parseSize? (hex width n) = some n := by
  have hprinted : parseSize? ("" ++ hex width n) = some n := parseSize?_printed (by decide) width h
  rwa [String.empty_append] at hprinted

/-- A number that is marked as hexadecimal reads back. -/
theorem parseSize?_marked {n : Nat} (width : Nat) (h : n < UInt64.size) :
    parseSize? ("0x" ++ hex width n) = some n :=
  parseSize?_printed (by decide) width h

/-- Capitals read back too. -/
theorem parseSize?_toUpper {mark : String} {n : Nat} (hmark : mark ∈ hexMarks) (width : Nat)
    (h : n < UInt64.size) : parseSize? (mark ++ (hex width n).toUpper) = some n := by
  have hlist : (hex width n).toUpper.toList = (hex width n).toList.map Char.toUpper :=
    String.toList_map
  have hdigits : ∀ c ∈ (hex width n).toList, isHexDigit c = true := fun _ hc =>
    isHexDigit_of_mem_hex hc
  have hupper : ∀ c ∈ (hex width n).toUpper.toList, isHexDigit c = true := by
    rw [hlist]
    intro c hc
    obtain ⟨d, hd, rfl⟩ := List.mem_map.mp hc
    rw [isHexDigit, hexDigit?_toUpper (hdigits d hd)]
    exact hdigits d hd
  rw [parseSize?_of_isHexDigit hmark hupper, hlist, hexValue_map_toUpper hdigits,
    hexValue_toList_hex, if_pos h]

/-- **What is read of a text.** Every text has a spelling, and of each spelling the value of its digits is
read, however many they are, unless it takes more than 64 bits. A number of 64 bits that was printed reads
back, in either case, with or without a mark and with any number of zeros in front. -/
theorem parseSize?_spelling :
    (∀ s : Spelling, parseSize? s.text = if s.value < 2 ^ 64 then some s.value else none) ∧
      (∀ t, ∃ s : Spelling, s.text = t) ∧
      ∀ (n : UInt64) (width : Nat), ∀ mark ∈ hexMarks,
        parseSize? (mark ++ hex width n.toNat) = some n.toNat ∧
          parseSize? (mark ++ (hex width n.toNat).toUpper) = some n.toNat :=
  ⟨Spelling.parseSize?_text, Spelling.exists_text_eq, fun n width _ hmark =>
    ⟨parseSize?_printed hmark width n.toNat_lt, parseSize?_toUpper hmark width n.toNat_lt⟩⟩

/-- More digits than 64 bits take, most of them zeros, between blanks and a letter. -/
def padded : Spelling where
  blanks := " \t"
  mark := "0X"
  digits := "00000000000000000001f"
  rest := "g0"
  isBlank_of_mem := List.all_eq_true.mp (by decide)
  mark_mem := by decide
  isHexDigit_of_mem := List.all_eq_true.mp (by decide)
  isHexDigit_of_head := by
    rintro c ⟨⟩
    rfl
  after?_eq_none := nofun
  isBlank_of_head := nofun

theorem parseSize?_spelling_padded : parseSize? " \t0X00000000000000000001fg0" = some 31 ∧
    parseSize? ("0X" ++ (hex 20 255).toUpper) = some 255 := by
  obtain ⟨hspelling, -, hprinted⟩ := parseSize?_spelling
  have hpadded := hspelling padded
  rw [if_pos (by decide)] at hpadded
  exact ⟨hpadded, (hprinted 255 20 "0X" (by decide)).2⟩

end Command

end Fastboot
