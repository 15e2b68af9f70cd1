/-!
# Parts of a text

`Text.after? lit s` is what follows the literal `lit` in a text that starts with it, and
`Text.cut c s` splits a text at the first occurrence of a character.

* `after?_eq_some_iff`: a rest is found exactly when the text is the literal followed by it.
* `isSome_after?`: whether one is found.

`Text.lines` splits a text at its line feeds, and takes a carriage return in front of a line feed for a
part of it. What stands behind the last line feed is a line too, even if it is empty.
-/

namespace Fastboot.Text

/-! ### Literals -/

/-- What follows `lit` in `s`, if `s` starts with `lit`. -/
def after? (lit s : String) : Option String :=
  (lit.toList.isPrefixOf? s.toList).map String.ofList

private theorem isPrefixOf?_cons (c d : Char) (a b : List Char) :
    (c :: a).isPrefixOf? (d :: b) = if c == d then a.isPrefixOf? b else none := rfl

private theorem isPrefixOf?_eq_some_iff {a b r : List Char} :
    a.isPrefixOf? b = some r ↔ b = a ++ r := by
  induction a generalizing b with
  | nil => exact Option.some_inj
  | cons c a ih =>
    cases b with
    | nil => exact ⟨nofun, nofun⟩
    | cons d b =>
      by_cases h : c = d
      · simp [isPrefixOf?_cons, h, ih]
      · simp [isPrefixOf?_cons, h, Ne.symm h]

theorem after?_eq_some_iff {lit s r : String} : after? lit s = some r ↔ s = lit ++ r := by
  simp only [after?, Option.map_eq_some_iff, isPrefixOf?_eq_some_iff, ← String.toList_inj,
    String.toList_append]
  constructor
  · rintro ⟨t, h, ht⟩
    rw [h, ← ht, String.toList_ofList]
  · exact fun h => ⟨r.toList, h, by simp⟩

/-- Whether there is a rest is a matter of the characters alone. -/
theorem isSome_after? (lit s : String) :
    (after? lit s).isSome = lit.toList.isPrefixOf s.toList := by
  rw [Bool.eq_iff_iff, Option.isSome_iff_exists, List.isPrefixOf_iff_prefix]
  constructor
  · rintro ⟨r, h⟩
    exact ⟨r.toList, by rw [after?_eq_some_iff.mp h, String.toList_append]⟩
  · rintro ⟨r, h⟩
    refine ⟨String.ofList r, after?_eq_some_iff.mpr ?_⟩
    rw [← String.toList_inj, String.toList_append, String.toList_ofList, h]

theorem after?_eq_none_iff {lit s : String} :
    after? lit s = none ↔ lit.toList.isPrefixOf s.toList = false := by
  rw [← isSome_after?, Option.isSome_eq_false_iff, Option.isNone_iff_eq_none]

/-- The text before the first `c`, and the text after it if there is a `c` at all. -/
def cut (c : Char) (s : String) : String × Option String :=
  let cs := s.toList
  (String.ofList (cs.takeWhile (· != c)),
    match cs.dropWhile (· != c) with
    | [] => none
    | _ :: r => some (String.ofList r))

/-! ### Lines -/

/-- A line without the carriage return at its end. -/
def dropReturn (line : List Char) : List Char :=
  if line.getLast? = some '\r' then line.dropLast else line

/-- The lines of a text. -/
def lines (cs : List Char) : List (List Char) :=
  let ls := cs.splitOn '\n'
  ls.dropLast.map dropReturn ++ ls.getLast?.toList

end Fastboot.Text
