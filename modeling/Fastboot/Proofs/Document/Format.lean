import Fastboot.Proofs.Document.Coherent
import Fastboot.Proofs.Document.Spelling

/-!
# What is known of a format

`Format.Lawful` has what a format is documented to do, as far as settings are concerned. A text that spells
lines is read as a document that says the same, and a sheet of plain values is written as a text that spells
its lines. The two say nothing of each other, but what is written is read again by both together
(`Lawful.exists_document`). Nothing is said of other texts: they may spell any document, or none.

The format at hand is lawful (`Document.lawful_format`).
-/

namespace Fastboot

open Document

/-- A format as it is documented. -/
structure Format.Lawful (format : Format) : Prop where
  /-- A text that spells lines is read as what they say, unless they contradict each other. -/
  reads {text : String} {ls : List Line} (hspells : Spells text ls) (hcoherent : (gathered ls).Coherent) :
    ∃ d, format.read? text = some d ∧ d.item? = (gathered ls).item?
  /-- A plain sheet is written as a text that spells its lines, with empty lines between them. -/
  writes {sheet : Sheet} (hplain : ∀ line ∈ sheet.lines, line.IsPlain)
    (hcoherent : (gathered sheet.lines).Coherent) :
    ∃ text ls, format.write? sheet = some text ∧ Spells text ls ∧
      ls.filter (· ≠ .blank) = sheet.lines

namespace Document

variable {d : Document} {current : Path} {ls : List Line}

/-- Empty lines say nothing. -/
theorem gatherAfter_filter (d : Document) (current : Path) (ls : List Line) :
    d.gatherAfter current (ls.filter (· ≠ .blank)) = d.gatherAfter current ls := by
  induction ls generalizing d current with
  | nil => rfl
  | cons line ls ih =>
    cases line with
    | blank => exact ih d current
    | table path => exact ih _ path
    | entry key value => exact ih _ current

theorem gathered_filter (ls : List Line) : gathered (ls.filter (· ≠ .blank)) = gathered ls :=
  gatherAfter_filter {} [] ls

end Document

/-- A plain sheet is read as it was written. -/
theorem Format.Lawful.exists_document {format : Format} (hformat : format.Lawful) {sheet : Sheet}
    (hplain : ∀ line ∈ sheet.lines, line.IsPlain) (hcoherent : (gathered sheet.lines).Coherent) :
    ∃ text d, format.write? sheet = some text ∧ format.read? text = some d ∧
      d.item? = (gathered sheet.lines).item? := by
  obtain ⟨text, ls, hwrite, hspells, hlines⟩ := hformat.writes hplain hcoherent
  have hsaid : gathered ls = gathered sheet.lines := by rw [← hlines, gathered_filter]
  obtain ⟨d, hread, hitem⟩ := hformat.reads hspells (hsaid ▸ hcoherent)
  exact ⟨text, d, hwrite, hread, hsaid ▸ hitem⟩

/-! ### The format at hand -/

theorem Line.IsPlain.isWritable {line : Line} (h : line.IsPlain) : line.isWritable = true := by
  cases line with
  | blank | table => rfl
  | entry key value =>
    cases value with
    | integer n => exact h.2
    | text | boolean => rfl
    | other => cases h.2

/-- The lines of a sheet that is written are plain if those of the sheet are. -/
theorem Sheet.isPlain_spacedLines {sheet : Sheet} (h : ∀ line ∈ sheet.lines, line.IsPlain) :
    ∀ line ∈ sheet.spacedLines, line.IsPlain := by
  intro line hline
  obtain ⟨written, hwritten, hmem⟩ := List.mem_flatMap.mp hline
  have hplain := h written hwritten
  cases written with
  | blank | entry =>
    obtain rfl := List.mem_singleton.mp hmem
    exact hplain
  | table path =>
    obtain rfl | hmem := List.mem_cons.mp hmem
    · trivial
    · obtain rfl := List.mem_singleton.mp hmem
      exact hplain

theorem Sheet.ne_blank_of_mem_lines {sheet : Sheet} {line : Line} (h : line ∈ sheet.lines) :
    line ≠ .blank := by
  have hentries (entries : List (String × Value)) : .blank ∉ Sheet.lines.entryLines entries := by
    intro hmem
    obtain ⟨entry, -, hentry⟩ := List.mem_map.mp hmem
    cases hentry
  rintro rfl
  obtain hmem | hmem := List.mem_append.mp h
  · exact hentries _ hmem
  · obtain ⟨⟨name, entries⟩, -, hmem⟩ := List.mem_flatMap.mp hmem
    obtain hhead | hmem := List.mem_cons.mp hmem
    · cases hhead
    · exact hentries _ hmem

/-- The empty lines are all that is added. -/
theorem Sheet.filter_spacedLines (sheet : Sheet) :
    sheet.spacedLines.filter (· ≠ .blank) = sheet.lines := by
  have hspaced (ls : List Line) :
      (ls.flatMap Line.spaced).filter (· ≠ .blank) = ls.filter (· ≠ .blank) := by
    induction ls with
    | nil => rfl
    | cons line ls ih =>
      rw [List.flatMap_cons, List.filter_append, ih]
      cases line <;> rfl
  rw [spacedLines, hspaced, List.filter_eq_self]
  exact fun line hline => decide_eq_true (ne_blank_of_mem_lines hline)

theorem Document.write?_format {sheet : Sheet} (h : sheet.lines.all Line.isWritable = true) :
    Document.format.write? sheet = some sheet.print :=
  if_pos h

/-- **The format at hand does as documented.** -/
theorem Document.lawful_format : Document.format.Lawful where
  reads {text ls} hspells hcoherent :=
    ⟨gathered ls, (parse?_of_spells hspells).trans (ofLines?_eq_some_iff.mpr ⟨hcoherent, rfl⟩), rfl⟩
  writes {sheet} hplain _ := by
    have hwritable : sheet.lines.all Line.isWritable = true :=
      List.all_eq_true.mpr fun line hline => (hplain line hline).isWritable
    refine ⟨sheet.print, sheet.spacedLines ++ [Line.blank], write?_format hwritable,
      spells_printLines (Sheet.isPlain_spacedLines hplain), ?_⟩
    rw [List.filter_append, sheet.filter_spacedLines]
    exact List.append_nil _

end Fastboot
