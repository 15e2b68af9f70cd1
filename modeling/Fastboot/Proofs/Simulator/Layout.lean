import Fastboot.Proofs.Text.Lines
import Fastboot.Simulator.Script
import Mathlib.Data.List.TakeWhile
import Mathlib.Logic.Relation

/-!
# The layout of a script

`Edit` changes the layout of a text: it puts in a line that is passed over, or blanks around a line. What the
edits leave of the lines is `Relaid` (`Edit.relaid`): the same lines but for the blanks around them, with lines
between them that are passed over. What a script does depends on its `numbered` lines, those that are not
passed over, and another layout changes their numbers only (`Relaid.map_fst_numbered`).
-/

namespace Fastboot

namespace Text

variable {s before after : String}

/-- Whether a text has nothing but blanks. -/
def IsBlankText (s : String) : Prop :=
  ∀ c ∈ s.toList, isBlank c

instance (s : String) : Decidable (IsBlankText s) :=
  List.decidableBAll _ s.toList

/-- Blanks around a text are taken away with those at its ends. -/
theorem trim_append_append (hbefore : IsBlankText before) (hafter : IsBlankText after) (s : String) :
    trim (before ++ s ++ after) = trim s := by
  have hdrop : after.toList.dropWhile isBlank = [] := List.dropWhile_eq_nil_iff.mpr hafter
  have hreverse : ∀ c ∈ after.toList.reverse, isBlank c := fun c hc => hafter c (List.mem_reverse.mp hc)
  rw [trim, trim, String.toList_append, String.toList_append, List.append_assoc,
    List.dropWhile_append_of_pos hbefore, List.dropWhile_append]
  cases hs : s.toList.dropWhile isBlank with
  | nil => simp [hdrop]
  | cons c cs =>
    rw [List.isEmpty_cons, if_neg Bool.false_ne_true, List.reverse_append,
      List.dropWhile_append_of_pos hreverse]

/-- A carriage return is a blank, so it does not matter whether a line has one at its end. -/
theorem trim_dropReturn (line : List Char) :
    trim (String.ofList (dropReturn line)) = trim (String.ofList line) := by
  unfold dropReturn
  split_ifs with hlast
  · have hline := List.dropLast_append_getLast? '\r' hlast
    generalize line.dropLast = front at hline ⊢
    obtain rfl := hline
    have htrim := trim_append_append (by decide : IsBlankText "") (by decide : IsBlankText "\r")
      (String.ofList front)
    rw [String.empty_append] at htrim
    rw [String.ofList_append]
    exact htrim.symm
  · rfl

/-- The lines of a text. -/
def textLines (s : String) : List String :=
  (lines s.toList).map String.ofList

theorem textLines_append_append (s rest : String) :
    textLines (s ++ "\n" ++ rest) =
      (s.toList.splitOn '\n').map (fun line => String.ofList (dropReturn line)) ++ textLines rest := by
  have hcons : (s ++ "\n" ++ rest).toList = s.toList ++ '\n' :: rest.toList := by simp
  rw [textLines, hcons, lines_append_cons, List.map_append, List.map_map]
  rfl

theorem textLines_of_notMem (h : '\n' ∉ s.toList) : textLines s = [s] := by
  rw [textLines, lines, splitOn_of_notMem h]
  simp

theorem textLines_cons (h : '\n' ∉ s.toList) (rest : String) :
    textLines (s ++ "\n" ++ rest) = String.ofList (dropReturn s.toList) :: textLines rest := by
  rw [textLines_append_append, splitOn_of_notMem h]
  rfl

/-- Whether a text ends where a line starts. -/
def EndsLine (s : String) : Prop :=
  s = "" ∨ ∃ front, s = front ++ "\n"

/-- Where a line starts, the lines before and behind are read apart. -/
theorem textLines_of_endsLine (h : EndsLine s) :
    ∃ front, ∀ rest, textLines (s ++ rest) = front ++ textLines rest := by
  obtain rfl | ⟨front, rfl⟩ := h
  · exact ⟨[], fun rest => by rw [String.empty_append, List.nil_append]⟩
  · exact ⟨_, fun rest => textLines_append_append front rest⟩

end Text

namespace Simulator

open Text

/-! ### Lines -/

/-- Lines in another layout: with other blanks around them, and with lines between them that are passed
over. -/
inductive Relaid : List String → List String → Prop
  | nil : Relaid [] []
  | inserted {lines lines' : List String} {line : String} (hskipped : isSkipped (trim line)) :
      Relaid lines lines' → Relaid lines (line :: lines')
  | kept {lines lines' : List String} {line line' : String} (htrim : trim line' = trim line) :
      Relaid lines lines' → Relaid (line :: lines) (line' :: lines')

namespace Relaid

variable {lines lines' lines'' : List String}

theorem refl (lines : List String) : Relaid lines lines := by
  induction lines with
  | nil => exact .nil
  | cons line lines ih => exact .kept rfl ih

theorem append_left (front : List String) (h : Relaid lines lines') :
    Relaid (front ++ lines) (front ++ lines') := by
  induction front with
  | nil => exact h
  | cons line front ih => exact .kept rfl ih

theorem trans (h : Relaid lines lines') (h' : Relaid lines' lines'') : Relaid lines lines'' := by
  induction h' generalizing lines with
  | nil => exact h
  | inserted hskipped _ ih => exact .inserted hskipped (ih h)
  | kept htrim _ ih =>
    cases h with
    | inserted hskipped h => exact .inserted (htrim ▸ hskipped) (ih h)
    | kept htrim' h => exact .kept (htrim.trans htrim') (ih h)

end Relaid

/-! ### Texts -/

/-- A change of the layout of a text, at one place. -/
inductive Edit : String → String → Prop
  /-- A line that is passed over is put in where a line starts. -/
  | inserted {front back line : String} (hfront : EndsLine front) (hline : '\n' ∉ line.toList)
      (hskipped : isSkipped (trim line)) : Edit (front ++ back) (front ++ line ++ "\n" ++ back)
  /-- A line that is passed over is put behind the last one. -/
  | appended {text line : String} (hline : '\n' ∉ line.toList) (hskipped : isSkipped (trim line)) :
      Edit text (text ++ "\n" ++ line)
  /-- Blanks are put around a line. -/
  | padded {front line back before after : String} (hfront : EndsLine front)
      (hback : back = "" ∨ ∃ rest, back = "\n" ++ rest) (hline : '\n' ∉ (before ++ line ++ after).toList)
      (hbefore : IsBlankText before) (hafter : IsBlankText after) :
      Edit (front ++ line ++ back) (front ++ (before ++ line ++ after) ++ back)

/-- An edit leaves the lines that are not passed over as they are, but for the blanks around them. -/
theorem Edit.relaid {text text' : String} (h : Edit text text') :
    Relaid (textLines text) (textLines text') := by
  cases h with
  | @inserted front back line hfront hline hskipped =>
    obtain ⟨ls, hls⟩ := textLines_of_endsLine hfront
    rw [String.append_assoc, String.append_assoc, hls, hls, ← String.append_assoc, textLines_cons hline]
    refine .append_left ls (.inserted ?_ (.refl _))
    rwa [trim_dropReturn, String.ofList_toList]
  | @appended _ line hline hskipped =>
    obtain ⟨ls, last, hsplit⟩ :=
      (List.eq_nil_or_concat' _).resolve_left (List.splitOn_ne_nil '\n' text.toList)
    have htext : textLines text =
        ls.map (fun line => String.ofList (dropReturn line)) ++ [String.ofList last] := by
      simp [textLines, lines, hsplit]
    rw [textLines_append_append, textLines_of_notMem hline, htext, hsplit, List.map_append,
      List.append_assoc]
    exact .append_left _ (.kept (trim_dropReturn last) (.inserted hskipped .nil))
  | @padded front line back before after hfront hback hline hbefore hafter =>
    obtain ⟨ls, hls⟩ := textLines_of_endsLine hfront
    rw [String.append_assoc, String.append_assoc, hls, hls]
    refine .append_left ls ?_
    have htrim := trim_append_append hbefore hafter line
    have hline' : '\n' ∉ line.toList := fun hmem => hline (by simp [hmem])
    obtain rfl | ⟨rest, rfl⟩ := hback
    · rw [String.append_empty, String.append_empty, textLines_of_notMem hline, textLines_of_notMem hline']
      exact .kept htrim .nil
    · rw [← String.append_assoc, ← String.append_assoc, textLines_cons hline, textLines_cons hline']
      refine .kept ?_ (.refl _)
      rw [trim_dropReturn, trim_dropReturn, String.ofList_toList, String.ofList_toList, htrim]

/-- A text in another layout: edited any number of times. -/
abbrev Edits : String → String → Prop :=
  Relation.ReflTransGen Edit

theorem Edits.relaid {text text' : String} (h : Edits text text') :
    Relaid (textLines text) (textLines text') := by
  induction h with
  | refl => exact .refl _
  | tail _ hedit ih => exact ih.trans hedit.relaid

/-! ### Numbers -/

/-- The lines from a given number on that are not passed over, each without the blanks around it and with
its number. -/
def numbered (number : Nat) (lines : List String) : List (String × Nat) :=
  ((lines.map trim).zipIdx number).filter fun entry => !isSkipped entry.1

theorem numbered_cons_of_isSkipped {line : String} (h : isSkipped (trim line)) (number : Nat)
    (lines : List String) : numbered number (line :: lines) = numbered (number + 1) lines := by
  simp [numbered, h]

theorem numbered_cons {line : String} (h : isSkipped (trim line) = false) (number : Nat)
    (lines : List String) :
    numbered number (line :: lines) = (trim line, number) :: numbered (number + 1) lines := by
  simp [numbered, h]

/-- Another layout has the same lines to run, though with other numbers. -/
theorem Relaid.map_fst_numbered {lines lines' : List String} (h : Relaid lines lines')
    (number number' : Nat) :
    (numbered number' lines').map Prod.fst = (numbered number lines).map Prod.fst := by
  induction h generalizing number number' with
  | nil => rfl
  | inserted hskipped _ ih => rw [numbered_cons_of_isSkipped hskipped, ih]
  | @kept lines lines' line line' htrim _ ih =>
    cases hskipped : isSkipped (trim line) with
    | true =>
      rw [numbered_cons_of_isSkipped hskipped, numbered_cons_of_isSkipped (htrim ▸ hskipped), ih]
    | false =>
      rw [numbered_cons hskipped, numbered_cons (htrim ▸ hskipped), htrim, List.map_cons,
        List.map_cons, ih]

end Simulator

end Fastboot
