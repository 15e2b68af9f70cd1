import Fastboot.Document.Basic
import Mathlib.Data.List.Nodup
import Mathlib.Tactic.Common

/-!
# What lines say

`Document.gathered lines` has what the lines say, whether they contradict each other or not: an entry
stands in the table whose header came last. A document is `Coherent` if it says nothing twice, and nothing
is a value and a table at once. Lines make up a document exactly if what they say is coherent, and then it is
that document (`Document.ofLines?_eq_some_iff`), in whatever order the lines come.
-/

namespace Fastboot.Document

variable {d : Document} {current path : Path} {key : String} {value : Value} {line : Line}
  {lines : List Line}

/-- The paths that have a value. -/
def paths (d : Document) : List Path :=
  d.entries.map Prod.fst

/-- A document that does not contradict itself. -/
structure Coherent (d : Document) : Prop where
  paths_nodup : d.paths.Nodup
  tables_nodup : d.tables.Nodup
  /-- No table is a value, nor within one. -/
  apart : ∀ path ∈ d.paths, ∀ table ∈ d.tables, ¬ path <+: table

/-- Add what lines say behind a header. -/
def gatherAfter (d : Document) (current : Path) : List Line → Document
  | [] => d
  | .blank :: lines => d.gatherAfter current lines
  | .table path :: lines => gatherAfter { d with tables := d.tables ++ [path] } path lines
  | .entry key value :: lines =>
    gatherAfter { d with entries := d.entries ++ [(current ++ [key], value)] } current lines

/-- What lines say. -/
def gathered (lines : List Line) : Document :=
  gatherAfter {} [] lines

/-- What is said first is kept. -/
theorem gatherAfter_append (d : Document) (current : Path) (lines : List Line) :
    d.entries <+: (d.gatherAfter current lines).entries ∧
      d.tables <+: (d.gatherAfter current lines).tables := by
  induction lines generalizing d current with
  | nil => exact ⟨List.prefix_rfl, List.prefix_rfl⟩
  | cons line lines ih =>
    cases line with
    | blank => exact ih d current
    | table path =>
      obtain ⟨hentries, htables⟩ := ih { d with tables := d.tables ++ [path] } path
      exact ⟨hentries, (List.prefix_append _ _).trans htables⟩
    | entry key value =>
      obtain ⟨hentries, htables⟩ :=
        ih { d with entries := d.entries ++ [(current ++ [key], value)] } current
      exact ⟨(List.prefix_append _ _).trans hentries, htables⟩

/-- What a coherent document says first is coherent too. -/
theorem Coherent.of_prefix {e : Document} (h : e.Coherent) (hentries : d.entries <+: e.entries)
    (htables : d.tables <+: e.tables) : d.Coherent where
  paths_nodup := h.paths_nodup.sublist (hentries.sublist.map Prod.fst)
  tables_nodup := h.tables_nodup.sublist htables.sublist
  apart path hpath table htable :=
    h.apart path ((hentries.sublist.map Prod.fst).mem hpath) table (htables.mem htable)

theorem Coherent.of_gatherAfter (h : (d.gatherAfter current lines).Coherent) : d.Coherent :=
  h.of_prefix (gatherAfter_append d current lines).1 (gatherAfter_append d current lines).2

theorem value?_eq_none_iff : d.value? path = none ↔ path ∉ d.paths := by
  simp only [value?, paths, List.lookup_eq_none_iff, List.mem_map, bne_iff_ne, ne_eq, not_exists,
    not_and]
  exact ⟨fun h e he hpath => h e he hpath.symm, fun h e he hpath => h e he hpath.symm⟩

/-- A value that a coherent document says is the value at its path. -/
theorem Coherent.value?_eq_some (h : d.Coherent) (hmem : (path, value) ∈ d.entries) :
    d.value? path = some value := by
  obtain ⟨front, back, hentries⟩ := List.append_of_mem hmem
  rw [value?, List.lookup_eq_some_iff]
  refine ⟨front, back, hentries, fun entry hentry => bne_iff_ne.mpr fun hpath => ?_⟩
  have hnodup := h.paths_nodup
  rw [paths, hentries, List.map_append, List.map_cons] at hnodup
  exact (List.nodup_append.mp hnodup).2.2 _ (List.mem_map_of_mem hentry) _ List.mem_cons_self hpath.symm

theorem hasTable_iff : d.hasTable path ↔ ∃ table ∈ d.tables, path <+: table := by
  simp [hasTable]

theorem crossesValue_iff : d.crossesValue path ↔ ∃ p ∈ d.paths, p <+: path := by
  simp [crossesValue, paths]

/-! ### Steps -/

/-- A header is added exactly if what is said stays coherent. -/
theorem Coherent.table_iff (h : d.Coherent) :
    Coherent { d with tables := d.tables ++ [path] } ↔
      ¬ (path ∈ d.tables ∨ d.crossesValue path = true) := by
  rw [crossesValue_iff, not_or, not_exists]
  constructor
  · intro hnext
    have hnodup := hnext.tables_nodup
    rw [← List.concat_eq_append, List.nodup_concat] at hnodup
    exact ⟨hnodup.1, fun p hp => hnext.apart p hp.1 path (by simp) hp.2⟩
  · rintro ⟨hmem, hfree⟩
    refine ⟨h.paths_nodup, ?_, fun p hp => List.forall_mem_append.mpr ⟨h.apart p hp, ?_⟩⟩
    · rw [← List.concat_eq_append, List.nodup_concat]
      exact ⟨hmem, h.tables_nodup⟩
    · rw [List.forall_mem_singleton]
      exact fun hprefix => hfree p ⟨hp, hprefix⟩

/-- And so is an entry. -/
theorem Coherent.entry_iff (h : d.Coherent) :
    Coherent { d with entries := d.entries ++ [(path, value)] } ↔
      ¬ ((d.value? path).isSome = true ∨ d.hasTable path = true) := by
  have hpaths : paths { d with entries := d.entries ++ [(path, value)] } = d.paths ++ [path] := by
    simp [paths]
  rw [hasTable_iff, not_or, Bool.not_eq_true, Option.isSome_eq_false_iff,
    Option.isNone_iff_eq_none, value?_eq_none_iff, not_exists]
  constructor
  · intro hnext
    have hnodup := hnext.paths_nodup
    rw [hpaths, ← List.concat_eq_append, List.nodup_concat] at hnodup
    exact ⟨hnodup.1, fun table ht => hnext.apart path (by simp [hpaths]) table ht.1 ht.2⟩
  · rintro ⟨hmem, hfree⟩
    refine ⟨?_, h.tables_nodup, ?_⟩
    · rw [hpaths, ← List.concat_eq_append, List.nodup_concat]
      exact ⟨hmem, h.paths_nodup⟩
    · rw [hpaths, List.forall_mem_append, List.forall_mem_singleton]
      exact ⟨h.apart, fun table ht hprefix => hfree table ⟨ht, hprefix⟩⟩

/-! ### Runs -/

theorem coherent_empty : Coherent {} where
  paths_nodup := List.nodup_nil
  tables_nodup := List.nodup_nil
  apart := by
    intro path hpath
    cases hpath

theorem addLines?_eq_some_iff (h : d.Coherent) {e : Document} :
    d.addLines? current lines = some e ↔
      (d.gatherAfter current lines).Coherent ∧ e = d.gatherAfter current lines := by
  induction lines generalizing d current with
  | nil => exact ⟨fun hsome => ⟨h, (Option.some.inj hsome).symm⟩, fun he => congrArg some he.2.symm⟩
  | cons line lines ih =>
    cases line with
    | blank => exact ih h
    | table path =>
      simp only [addLines?, add?, gatherAfter]
      by_cases hnext : Coherent { d with tables := d.tables ++ [path] }
      · rw [if_neg (h.table_iff.mp hnext)]
        exact ih hnext
      · rw [if_pos (Decidable.not_not.mp fun hfree => hnext (h.table_iff.mpr hfree))]
        exact iff_of_false nofun fun he => hnext he.1.of_gatherAfter
    | entry key value =>
      simp only [addLines?, add?, gatherAfter]
      by_cases hnext : Coherent { d with entries := d.entries ++ [(current ++ [key], value)] }
      · rw [if_neg (h.entry_iff.mp hnext)]
        exact ih hnext
      · rw [if_pos (Decidable.not_not.mp fun hfree => hnext (h.entry_iff.mpr hfree))]
        exact iff_of_false nofun fun he => hnext he.1.of_gatherAfter

/-- **What lines make up a document.** Those that do not contradict each other, in any order, and the
document has what they say. -/
theorem ofLines?_eq_some_iff :
    ofLines? lines = some d ↔ (gathered lines).Coherent ∧ d = gathered lines :=
  addLines?_eq_some_iff coherent_empty

end Fastboot.Document
