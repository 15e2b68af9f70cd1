import Fastboot.Command.Partition
import Fastboot.Command.Vendor
import Fastboot.Command.Verb
import Mathlib.Data.List.Basic

/-!
# Tables without ambiguity

The first entry that matches decides, so what a table says could hang on its order. Two properties of a table
say that it does not, and each compares the literals with each other and with no input:

* `Ordered`: no literal stands before one that starts with it. Then the first entry that an input starts with
  is the one with the longest literal (`leading?_eq_some_iff`).
* `Separate`: no literal is a word of another one. Then at most one entry is a word of an input
  (`Separate.length_filter_le_one`), and any order of the table finds it (`Separate.word?_eq_of_perm`).

The table of the verbs is ordered and those of the sub-commands are separate, which `tables_unambiguous` puts
together.
-/

namespace Fastboot.Command

open Text

variable {α : Type} {table table' : List (String × α)} {input literal literal' : String} {value : α}
  {e e' : String × α}

/-! ### Leading literals -/

/-- The input is the literal, with anything behind it. -/
def Starts (literal input : String) : Prop :=
  ∃ rest, input = literal ++ rest

theorem isSome_after?_iff : (after? literal input).isSome = true ↔ Starts literal input := by
  simp only [Option.isSome_iff_exists, after?_eq_some_iff, Starts]

instance (literal input : String) : Decidable (Starts literal input) :=
  decidable_of_iff _ isSome_after?_iff

theorem starts_iff : Starts literal input ↔ literal.toList <+: input.toList := by
  rw [← isSome_after?_iff, isSome_after?, List.isPrefixOf_iff_prefix]

theorem starts_self (literal : String) : Starts literal literal :=
  ⟨"", String.append_empty.symm⟩

/-- Of two literals that an input starts with, the shorter one starts the longer. -/
theorem Starts.of_length_le (h : Starts literal input) (h' : Starts literal' input)
    (hle : literal.length ≤ literal'.length) : Starts literal literal' := by
  rw [starts_iff] at h h' ⊢
  exact List.prefix_of_prefix_length_le h h' hle

theorem Starts.length_le (h : Starts literal input) : literal.length ≤ input.length :=
  (starts_iff.mp h).length_le

/-- Literals of one length that an input starts with are the same. -/
theorem Starts.eq_of_length_eq (h : Starts literal input) (h' : Starts literal' input)
    (hlength : literal.length = literal'.length) : literal = literal' := by
  have hstarts := starts_iff.mp (h.of_length_le h' (Nat.le_of_eq hlength))
  exact String.toList_inj.mp (hstarts.eq_of_length hlength)

/-- No literal stands before one that starts with it. -/
def Ordered (table : List (String × α)) : Prop :=
  table.Pairwise fun e e' => ¬ Starts e.1 e'.1

instance (table : List (String × α)) : Decidable (Ordered table) :=
  inferInstanceAs (Decidable (table.Pairwise _))

/-- Of all entries that the input starts with, this one has the longest literal. -/
structure Longest (table : List (String × α)) (input : String) (e : String × α) : Prop where
  mem : e ∈ table
  starts : Starts e.1 input
  length_le : ∀ e' ∈ table, Starts e'.1 input → e'.1.length ≤ e.1.length

/-- An ordered table has each literal once. -/
theorem Ordered.eq_of_literal_eq (h : Ordered table) (he : e ∈ table) (he' : e' ∈ table)
    (hsame : e.1 = e'.1) : e = e' := by
  by_contra hne
  obtain ⟨front, back, rfl⟩ := List.append_of_mem he
  rw [Ordered, List.pairwise_append, List.pairwise_cons] at h
  obtain ⟨-, ⟨hback, -⟩, hfront⟩ := h
  rcases List.mem_append.mp he' with hmem | hmem
  · exact hfront e' hmem e List.mem_cons_self (hsame ▸ starts_self _)
  · rcases List.mem_cons.mp hmem with heq | hmem
    · exact hne heq.symm
    · exact hback e' hmem (hsame ▸ starts_self _)

/-- The first entry that matches has the longest literal. -/
theorem Ordered.longest_of_find? (h : Ordered table)
    (hfind : table.find? (fun e => (after? e.1 input).isSome) = some e) :
    Longest table input e := by
  obtain ⟨hstarts, front, back, rfl, hfront⟩ := List.find?_eq_some_iff_append.mp hfind
  rw [isSome_after?_iff] at hstarts
  rw [Ordered, List.pairwise_append, List.pairwise_cons] at h
  obtain ⟨-, ⟨hback, -⟩, -⟩ := h
  refine ⟨by simp, hstarts, fun e' he' hstarts' => ?_⟩
  -- an entry in front would have been found, and one behind that is longer would start with this one
  rcases List.mem_append.mp he' with hmem | hmem
  · exact absurd (isSome_after?_iff.mpr hstarts') (by simpa using hfront e' hmem)
  · rcases List.mem_cons.mp hmem with rfl | hmem
    · exact Nat.le_refl _
    · by_contra hlonger
      exact hback e' hmem (hstarts.of_length_le hstarts' (by omega))

theorem leading?_eq_none_iff :
    leading? table input = none ↔ ∀ e ∈ table, ¬ Starts e.1 input := by
  simp [leading?, ← isSome_after?_iff]

/-- **The longest literal decides** in an ordered table. -/
theorem leading?_eq_some_iff (h : Ordered table) :
    leading? table input = some value ↔ ∃ literal, Longest table input (literal, value) := by
  constructor
  · intro hleading
    obtain ⟨⟨literal, _⟩, hfind, rfl⟩ := Option.map_eq_some_iff.mp hleading
    exact ⟨literal, h.longest_of_find? hfind⟩
  · rintro ⟨literal, hlongest⟩
    have hsome : (table.find? fun e => (after? e.1 input).isSome).isSome = true :=
      List.find?_isSome.mpr ⟨_, hlongest.mem, isSome_after?_iff.mpr hlongest.starts⟩
    obtain ⟨e, hfind⟩ := Option.isSome_iff_exists.mp hsome
    have he := h.longest_of_find? hfind
    have hlength : e.1.length = literal.length :=
      Nat.le_antisymm (hlongest.length_le e he.mem he.starts)
        (he.length_le _ hlongest.mem hlongest.starts)
    have hsame : e.1 = literal := he.starts.eq_of_length_eq hlongest.starts hlength
    rw [leading?, hfind, h.eq_of_literal_eq he.mem hlongest.mem hsame, Option.map_some]

/-- No entry of an ordered table is hidden by a shorter one: its literal finds it. -/
theorem Ordered.leading?_literal (h : Ordered table) (he : e ∈ table) :
    leading? table e.1 = some e.2 :=
  (leading?_eq_some_iff h).mpr ⟨e.1, he, starts_self e.1, fun _ _ hstarts => hstarts.length_le⟩

/-! ### Whole words -/

/-- A word ends with the input or at a space. -/
theorem isWord_iff :
    isWord literal input = true ↔ input = literal ∨ ∃ rest, input = literal ++ (" " ++ rest) := by
  rw [isWord]
  cases hafter : after? literal input with
  | none =>
    refine iff_of_false nofun ?_
    have hnot : ¬ Starts literal input := by
      rw [← isSome_after?_iff, hafter]
      nofun
    rintro (rfl | ⟨rest, rfl⟩)
    · exact hnot (starts_self _)
    · exact hnot ⟨_, rfl⟩
  | some rest =>
    obtain rfl := after?_eq_some_iff.mp hafter
    simp only [String.append_eq_left_iff, String.append_right_inj]
    simp only [← String.toList_inj, String.toList_append]
    cases rest.toList with
    | nil => simp
    | cons c cs =>
      have hspace (rest' : String) : (" " : String).toList ++ rest'.toList = ' ' :: rest'.toList := rfl
      simp only [String.toList_empty, reduceCtorEq, false_or, beq_iff_eq, hspace, List.cons.injEq]
      exact ⟨fun hc => ⟨String.ofList cs, hc, by simp⟩, fun ⟨_, hc, _⟩ => hc⟩

/-- With a space behind both, a word is no more than a literal that the input starts with. -/
theorem isWord_iff_starts :
    isWord literal input = true ↔ Starts (literal ++ " ") (input ++ " ") := by
  rw [isWord_iff]
  constructor
  · rintro (rfl | ⟨rest, rfl⟩)
    · exact starts_self _
    · exact ⟨rest ++ " ", by simp only [String.append_assoc]⟩
  · rw [starts_iff]
    simp only [String.toList_append]
    intro hprefix
    have hspace : (" " : String).toList = [' '] := rfl
    rw [hspace, List.prefix_concat_iff] at hprefix
    rcases hprefix with hall | ⟨rest, hrest⟩
    · exact .inl (String.toList_inj.mp (List.append_cancel_right hall).symm)
    · refine .inr ⟨String.ofList rest, ?_⟩
      rw [← String.toList_inj, ← hrest]
      simp

/-- Of two words of an input, one is a word of the other. -/
theorem isWord_or_isWord (h : isWord literal input = true) (h' : isWord literal' input = true) :
    isWord literal literal' = true ∨ isWord literal' literal = true := by
  simp only [isWord_iff_starts] at h h' ⊢
  rcases Nat.le_total (literal ++ " ").length (literal' ++ " ").length with hle | hle
  · exact .inl (h.of_length_le h' hle)
  · exact .inr (h'.of_length_le h hle)

/-- No literal is a word of another one. -/
def Separate (table : List (String × α)) : Prop :=
  table.Pairwise fun e e' => isWord e.1 e'.1 = false ∧ isWord e'.1 e.1 = false

instance (table : List (String × α)) : Decidable (Separate table) :=
  inferInstanceAs (Decidable (table.Pairwise _))

/-- **At most one entry is a word of an input.** -/
theorem Separate.length_filter_le_one (h : Separate table) (input : String) :
    (table.filter (isWord ·.1 input)).length ≤ 1 := by
  induction table with
  | nil => exact Nat.zero_le _
  | cons e table ih =>
    obtain ⟨hother, hrest⟩ := List.pairwise_cons.mp h
    by_cases hword : isWord e.1 input = true
    · have hnone : table.filter (isWord ·.1 input) = [] := by
        refine List.filter_eq_nil_iff.mpr fun e' he' hword' => ?_
        obtain ⟨hnot, hnot'⟩ := hother e' he'
        rcases isWord_or_isWord hword hword' with hsome | hsome
        · exact Bool.noConfusion (hnot.symm.trans hsome)
        · exact Bool.noConfusion (hnot'.symm.trans hsome)
      rw [List.filter_cons, if_pos hword, hnone]
      exact Nat.le_refl 1
    · rw [List.filter_cons, if_neg hword]
      exact ih hrest

/-- An entry that matches is the only one. -/
theorem Separate.filter_eq_singleton {e : String × α} (h : Separate table)
    (he : e ∈ table.filter (isWord ·.1 input)) : table.filter (isWord ·.1 input) = [e] := by
  have hone := Nat.le_antisymm (h.length_filter_le_one input) (List.length_pos_of_mem he)
  obtain ⟨e', hlist⟩ := List.length_eq_one_iff.mp hone
  rw [hlist] at he ⊢
  rw [List.mem_singleton.mp he]

/-- **Any order of a separate table finds the same entry.** -/
theorem Separate.word?_eq_of_perm (h : Separate table) (hperm : table'.Perm table)
    (input : String) : word? table' input = word? table input := by
  have hfilter := hperm.filter (isWord ·.1 input)
  rw [word?, word?, ← List.head?_filter, ← List.head?_filter]
  -- no more than one entry matches, so there is nothing to put in another order
  cases hmatch : table.filter (isWord ·.1 input) with
  | nil =>
    rw [hmatch] at hfilter
    rw [hfilter.eq_nil]
  | cons e rest =>
    have honly := h.filter_eq_singleton (hmatch ▸ List.mem_cons_self)
    rw [honly] at hfilter
    rw [List.perm_singleton.mp hfilter, ← hmatch, honly]

/-- **An entry that matches is the one that is found**, in an order that says nothing of it. -/
theorem Separate.word?_eq_some_iff (h : Separate table) :
    word? table input = some value ↔
      ∃ literal, (literal, value) ∈ table ∧ isWord literal input = true := by
  rw [word?, ← List.head?_filter]
  constructor
  · intro hword
    obtain ⟨⟨literal, _⟩, hhead, rfl⟩ := Option.map_eq_some_iff.mp hword
    obtain ⟨hmem, hmatch⟩ := List.mem_filter.mp (List.mem_of_mem_head? hhead)
    exact ⟨literal, hmem, hmatch⟩
  · rintro ⟨literal, hmem, hmatch⟩
    rw [h.filter_eq_singleton (List.mem_filter.mpr ⟨hmem, hmatch⟩)]
    rfl

/-! ### The tables -/

/-- What a table of words makes of an input, said without the order of the table. -/
structure Unambiguous (table : List (String × α)) (input : String) : Prop where
  /-- At most one entry is a word of the input. -/
  length_filter_le_one : (table.filter (isWord ·.1 input)).length ≤ 1
  /-- The entry that is found is the one whose literal the input is, or goes on from with a space. -/
  word?_eq_some_iff (value : α) : word? table input = some value ↔
    ∃ literal, (literal, value) ∈ table ∧
      (input = literal ∨ ∃ rest, input = literal ++ (" " ++ rest))
  /-- It is found wherever it stands. -/
  word?_eq_of_perm (table' : List (String × α)) (hperm : table'.Perm table) :
    word? table' input = word? table input

theorem Separate.unambiguous (h : Separate table) (input : String) : Unambiguous table input where
  length_filter_le_one := h.length_filter_le_one input
  word?_eq_some_iff value := by simp only [h.word?_eq_some_iff, isWord_iff]
  word?_eq_of_perm _ hperm := h.word?_eq_of_perm hperm input

/-- **What a command asks for is not a matter of the order of a table.** Of all verbs that a text starts with,
the longest is the one that is found, and none is found only if the text starts with none. So no verb hides
behind a shorter one. Of the sub-commands of `oem` and of `flashing` no two are words of one text, and the one
that is a word of it is found in any order. -/
theorem tables_unambiguous (input : String) :
    (∀ verb, Verb.ofCommand? input = some verb ↔
        ∃ literal, Longest Verb.table input (literal, verb)) ∧
      (Verb.ofCommand? input = none ↔ ∀ e ∈ Verb.table, ¬ Starts e.1 input) ∧
      (∀ e ∈ Verb.table, Verb.ofCommand? e.1 = some e.2) ∧
      Unambiguous VendorRequest.table input ∧ Unambiguous LockRequest.table input := by
  have hverbs : Ordered Verb.table := by decide
  have hvendor : Separate VendorRequest.table := by decide
  have hlock : Separate LockRequest.table := by decide
  exact ⟨fun _ => leading?_eq_some_iff hverbs, leading?_eq_none_iff,
    fun e he => hverbs.leading?_literal he, hvendor.unambiguous input, hlock.unambiguous input⟩

/-- A text that starts with two verbs, and a sub-command that another one starts. -/
theorem tables_unambiguous_flashing :
    Starts "flash" "flashing unlock" ∧ Verb.ofCommand? "flashing unlock" = some .flashing ∧
      word? LockRequest.table.reverse "lock_critical now" = some .lockCritical := by
  obtain ⟨hlongest, -⟩ := tables_unambiguous "flashing unlock"
  obtain ⟨-, -, -, -, hlock⟩ := tables_unambiguous "lock_critical now"
  refine ⟨by decide, (hlongest .flashing).mpr ⟨"flashing", by decide, by decide, by decide⟩, ?_⟩
  rw [hlock.word?_eq_of_perm _ (List.reverse_perm _)]
  exact (hlock.word?_eq_some_iff _).mpr ⟨"lock_critical", by decide, .inr ⟨"now", rfl⟩⟩

end Fastboot.Command
