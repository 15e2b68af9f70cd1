import Fastboot.Document.Format
import Mathlib.Data.List.TakeWhile
import Mathlib.Data.Nat.Digits.Defs
import Mathlib.Tactic.Common

/-!
# Values read as they are printed

* `integer?_toString`: a number of 64 bits with a sign is read from its decimal digits.
* `Quotes.print_plain` and `Quotes.readAfter?_plain`: a text of plain characters stands between double
  quotes as it is, and is read as far as the next of these.
-/

namespace Fastboot.Document

open Text

variable {cs rest : List Char} {c : Char}

/-! ### Integers -/

theorem digit?_of_isDigit (h : c.isDigit = true) : digit? 10 c = some (c.toNat - 48) := by
  rw [Char.isDigit_iff_toNat] at h
  have h0 : '0'.toNat = 48 := rfl
  have h9 : '9'.toNat = 57 := rfl
  have hdigit : hexDigit? c = some (c.toNat - 48) := by
    unfold hexDigit?
    rw [if_pos]
    simp only [Char.le_def, UInt32.le_iff_toNat_le]
    exact h
  rw [digit?, hdigit, Option.filter_some, if_pos (by simp; omega)]

/-- Digits do not make a number smaller. -/
theorem le_ofDigitChars (ds : List Char) (n : Nat) : n ≤ Nat.ofDigitChars 10 ds n := by
  induction ds generalizing n with
  | nil => exact le_rfl
  | cons c ds ih =>
    rw [Nat.ofDigitChars_cons]
    have hnext := ih (10 * n + (c.toNat - '0'.toNat))
    omega

/-- Decimal digits behind others are read, as far as the number they make up is not too large. -/
theorem digitsAfter?_eq {ds : List Char} {n : Nat} (hds : ∀ c ∈ ds, c.isDigit = true)
    (hle : Nat.ofDigitChars 10 ds n ≤ maxSize) :
    digitsAfter? 10 n ds = some (Nat.ofDigitChars 10 ds n) := by
  induction ds generalizing n with
  | nil => rfl
  | cons c ds ih =>
    rw [List.forall_mem_cons] at hds
    rw [Nat.ofDigitChars_cons] at hle ⊢
    have hnext : 10 * n + (c.toNat - 48) ≤ maxSize :=
      (le_ofDigitChars ds _).trans hle
    have happend : digitsAfter?.append? 10 n c = some (10 * n + (c.toNat - 48)) := by
      rw [digitsAfter?.append?, digit?_of_isDigit hds.1, Option.map_some, Option.filter_some,
        if_pos (decide_eq_true hnext)]
    have hne : c ≠ '_' := by
      rintro rfl
      exact absurd hds.1 (by decide)
    rw [digitsAfter?, happend]
    · exact ih hds.2 hle
    · exact fun _ _ hc _ => hne hc

/-- Only zero itself starts with a zero. -/
theorem head?_toDigits_ne {n : Nat} (h : n ≠ 0) : (Nat.toDigits 10 n).head? ≠ some '0' := by
  induction n using Nat.strongRecOn with
  | ind n ih =>
    by_cases hlt : n < 10
    · rw [Nat.toDigits_of_lt_base hlt]
      have hdigit : ∀ d < 10, d ≠ 0 → d.digitChar ≠ '0' := by decide
      exact fun hhead => hdigit n hlt h (Option.some.inj hhead)
    · have hsome : (Nat.toDigits 10 (n / 10)).head?.isSome :=
        List.isSome_head?.mpr Nat.toDigits_ne_nil
      rw [Nat.toDigits_of_base_le (by decide) (by omega), List.head?_append,
        Option.or_of_isSome hsome]
      exact ih (n / 10) (by omega) (by omega)

theorem decimal?_toDigits {n : Nat} (h : n ≤ maxSize) : decimal? (Nat.toDigits 10 n) = some n := by
  have hds : ∀ c ∈ Nat.toDigits 10 n, c.isDigit = true := fun c =>
    Nat.isDigit_of_mem_toDigits (by decide) (by decide)
  have hvalue : Nat.ofDigitChars 10 (Nat.toDigits 10 n) 0 = n :=
    Nat.ofDigitChars_toDigits (by decide) (by decide)
  by_cases hzero : n = 0
  · subst hzero
    rfl
  · have hhead := head?_toDigits_ne hzero
    generalize Nat.toDigits 10 n = ds at hds hvalue hhead
    cases ds with
    | nil => exact absurd hvalue.symm hzero
    | cons c ds =>
      have hc : c ≠ '0' := fun hc => hhead (congrArg some hc)
      rw [List.forall_mem_cons] at hds
      rw [Nat.ofDigitChars_cons, Nat.mul_zero, Nat.zero_add] at hvalue
      have hdigits : digits? 10 (c :: ds) = some n := by
        rw [digits?, digit?_of_isDigit hds.1, Option.bind_some]
        exact (digitsAfter?_eq hds.2 (hvalue.le.trans h)).trans (congrArg some hvalue)
      rw [decimal?, hdigits]
      · simp [hc]
      · simp [hc]

/-- A number that is printed is read as it was meant. -/
theorem integer?_toDigits {n : Nat} (h : n ≤ maxSize) :
    integer? (Nat.toDigits 10 n) = some (n : Int) := by
  have hdecimal := decimal?_toDigits h
  have hds : ∀ c ∈ Nat.toDigits 10 n, c.isDigit = true := fun c =>
    Nat.isDigit_of_mem_toDigits (by decide) (by decide)
  by_cases hzero : n = 0
  · subst hzero
    rfl
  · have hhead := head?_toDigits_ne hzero
    generalize Nat.toDigits 10 n = ds at hds hhead hdecimal
    have hne (c : Char) (hc : c.isDigit = false) : ds.head? ≠ some c := by
      intro hsome
      have hdigit := hds c (List.mem_of_mem_head? hsome)
      rw [hc] at hdigit
      cases hdigit
    unfold integer?
    split
    · exact absurd rfl hhead
    · exact absurd rfl hhead
    · exact absurd rfl hhead
    · exact absurd rfl (hne '-' rfl)
    · exact absurd rfl (hne '+' rfl)
    · rw [hdecimal]
      rfl

theorem toList_toString_ofNat (n : Nat) :
    (toString (Int.ofNat n)).toList = Nat.toDigits 10 n :=
  String.toList_ofList

theorem toList_toString_negSucc (n : Nat) :
    (toString (Int.negSucc n)).toList = '-' :: Nat.toDigits 10 (n + 1) := by
  show ("-" ++ Nat.repr (n + 1)).toList = _
  rw [String.toList_append]
  exact congrArg ('-' :: ·) String.toList_ofList

theorem integer?_toString {n : Int} (h : n.natAbs ≤ maxSize) :
    integer? (toString n).toList = some n := by
  cases n with
  | ofNat n =>
    rw [toList_toString_ofNat]
    exact integer?_toDigits h
  | negSucc n =>
    have hdecimal : decimal? (Nat.toDigits 10 (n + 1)) = some (n + 1) := decimal?_toDigits h
    rw [toList_toString_negSucc, integer?, hdecimal]
    rfl

/-! ### Texts -/

/-- A character that stands for itself between double quotes: no quote of these, no backslash and no
control character of ASCII. -/
structure IsPlain (c : Char) : Prop where
  le_toNat : 0x20 ≤ c.toNat
  ne_delete : c.toNat ≠ 0x7F
  ne_quote : c ≠ '"'
  ne_backslash : c ≠ '\\'

instance (c : Char) : Decidable (IsPlain c) :=
  decidable_of_iff (0x20 ≤ c.toNat ∧ c.toNat ≠ 0x7F ∧ c ≠ '"' ∧ c ≠ '\\')
    ⟨fun h => ⟨h.1, h.2.1, h.2.2.1, h.2.2.2⟩, fun h => ⟨h.1, h.2, h.3, h.4⟩⟩

theorem IsPlain.isPrintable (h : IsPlain c) : isPrintable c = true := by
  simp [Document.isPrintable, h.le_toNat, h.ne_delete]

theorem IsPlain.escaped (h : IsPlain c) : Quotes.escaped c = [c] := by
  have hle := h.le_toNat
  unfold Quotes.escaped
  split
  · exact absurd rfl h.ne_backslash
  · exact absurd hle (by decide)
  · exact absurd hle (by decide)
  · exact absurd hle (by decide)
  · exact absurd hle (by decide)
  · exact absurd hle (by decide)
  · exact if_pos h.isPrintable

namespace Quotes

theorem escapedAfter_plain (h : ∀ c ∈ cs, IsPlain c) (written : List Char) :
    basic.escapedAfter written 0 cs = written.reverse ++ cs := by
  induction cs generalizing written with
  | nil => rw [escapedAfter, List.append_nil]
  | cons c cs ih =>
    rw [List.forall_mem_cons] at h
    rw [escapedAfter, if_neg (fun hblock => Bool.false_ne_true hblock.1), h.1.escaped]
    · exact (ih h.2 (c :: written)).trans (by simp)
    · exact h.1.ne_quote

theorem occurs_quote (h : '"' ∉ cs) : occurs ['"'] cs = false := by
  induction cs with
  | nil => rfl
  | cons c cs ih =>
    rw [List.mem_cons, not_or] at h
    rw [occurs, ih h.2, Bool.or_false]
    simp [List.isPrefixOf, h.1]

/-- A plain text is written as it is, between double quotes. -/
theorem print_plain (h : ∀ c ∈ cs, IsPlain c) : print cs = '"' :: cs ++ ['"'] := by
  have hadmits : cs.all basic.admits = true := by
    rw [List.all_eq_true]
    intro c hc
    simp [admits, basic, (h c hc).isPrintable, (h c hc).ne_backslash]
  have hfits : basic.fits cs = true := by
    rw [fits, hadmits, show basic.delimiter = ['"'] from rfl,
      occurs_quote fun hmem => (h '"' hmem).ne_quote rfl]
    rfl
  have hquotes : ofText cs = basic := by
    have hfound : List.find? (·.fits cs) [basic, literal, ⟨true, true⟩, ⟨false, true⟩] =
        some basic := List.find?_cons_of_pos hfits
    rw [ofText, hfound, Option.getD_some]
  have hbody : basic.body cs = cs := escapedAfter_plain h []
  rw [print, hquotes, hbody]
  rfl

/-- And it is read as far as its quotes go. -/
theorem readAfter?_plain (h : ∀ c ∈ cs, IsPlain c) (read : List Char) :
    basic.readAfter? read (cs ++ '"' :: rest) = some (.closed (read.reverse ++ cs) rest) := by
  induction cs generalizing read with
  | nil =>
    have hrun : ¬ (rest.takeWhile (· == basic.mark)).length + 1 < basic.width :=
      Nat.not_lt.mpr (Nat.le_add_left 1 _)
    have hown (n : Nat) : min n (basic.width - 1) = 0 := Nat.min_zero n
    have hmark : '"' = basic.mark := rfl
    rw [List.nil_append, readAfter?.eq_def]
    dsimp only
    rw [if_pos hmark, if_neg hrun, hown, List.append_nil]
    rfl
  | cons c cs ih =>
    rw [List.forall_mem_cons] at h
    have hmark : c ≠ basic.mark := h.1.ne_quote
    rw [List.cons_append, readAfter?.eq_def]
    dsimp only
    rw [if_neg hmark, if_neg (fun hescape => h.1.ne_backslash hescape.2),
      if_pos h.1.isPrintable, ih h.2]
    simp

end Quotes

end Fastboot.Document
