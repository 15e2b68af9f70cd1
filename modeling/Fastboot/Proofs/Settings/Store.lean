import Fastboot.Proofs.Document.Format
import Fastboot.Proofs.Text.Utf8
import Fastboot.Settings.Store

/-!
# Settings loaded

The keys that settings have in a document are listed by `Settings.sizes` and `BoardFacts.texts`. A document is
`Typed` if each of them that it gives has a value of its type, and it may hold any other keys and tables, with
values of every kind. Settings are taken from it (`Document.Takes`) as it gives them, and by default where it
gives nothing; this fixes them (`Document.Takes.unique`). They are loaded exactly if they are valid
(`Settings.load_documents`), and so settings that were saved are loaded as they were.

All this holds of any format. What depends on how documents are spelled follows from what a format is
documented to do (`Format.Lawful`).
-/

namespace Fastboot

/-- The keys of the sizes, and what they say. -/
def Settings.sizes : List (String × (Settings → Nat)) :=
  [("staging_capacity", stagingCapacity), ("ep_buffer_size", bufferSize)]

/-- The keys in the table `board`, and what they say. -/
def BoardFacts.texts : List (String × (BoardFacts → String)) :=
  [("product", product), ("variant", variant), ("bootloader_version", bootloaderVersion),
   ("secure", secure), ("unlocked", unlocked), ("off_mode_charge", offModeCharge),
   ("battery_voltage", batteryVoltage), ("battery_soc_ok", batterySocOk)]

/-- The texts need no escapes. -/
def BoardFacts.IsPlain (facts : BoardFacts) : Prop :=
  ∀ entry ∈ texts, ∀ c ∈ (entry.2 facts).toList, Document.IsPlain c

instance BoardFacts.decidableIsPlain (facts : BoardFacts) : Decidable facts.IsPlain :=
  have (entry : String × (BoardFacts → String)) :=
    List.decidableBAll Document.IsPlain (entry.2 facts).toList
  List.decidableBAll _ BoardFacts.texts

namespace Document

variable {d d' : Document} {path : Path} {α : Type} {value : α → Value} {default x y : α}

/-- What stands at a path, if anything, is a value of a type. -/
def Allows (d : Document) (path : Path) (value : α → Value) : Prop :=
  ∀ item, d.item? path = some item → ∃ x, item = .value (value x)

/-- The value `x` stands at a path, or nothing does and `x` is the default. -/
def Gives (d : Document) (path : Path) (value : α → Value) (default x : α) : Prop :=
  match d.item? path with
  | some item => item = .value (value x)
  | none => x = default

/-- A size as a value. -/
def ofSize (n : Nat) : Value :=
  .integer n

/-- A document that gives the keys of settings, if at all, values of their types. -/
structure Typed (d : Document) : Prop where
  size : ∀ entry ∈ Settings.sizes, d.Allows [entry.1] ofSize
  board : ∀ item, d.item? ["board"] = some item → item = .table
  text : ∀ entry ∈ BoardFacts.texts, d.Allows ["board", entry.1] .text

/-- Settings that are just as a document gives them, and by default where it gives nothing. -/
structure Takes (d : Document) (s : Settings) : Prop where
  size : ∀ entry ∈ Settings.sizes, d.Gives [entry.1] ofSize (entry.2 {}) (entry.2 s)
  text : ∀ entry ∈ BoardFacts.texts, d.Gives ["board", entry.1] .text (entry.2 {}) (entry.2 s.facts)

theorem Gives.unique (hinj : Function.Injective value) (h : d.Gives path value default x)
    (h' : d.Gives path value default y) : x = y := by
  unfold Gives at h h'
  cases hitem : d.item? path with
  | none =>
    rw [hitem] at h h'
    exact h.trans h'.symm
  | some item =>
    rw [hitem] at h h'
    exact hinj (Item.value.inj (h.symm.trans h'))

/-- A value that is said is given. -/
theorem gives_of_value?_eq (h : d.value? path = some (value x)) : d.Gives path value default x := by
  rw [Gives, item?, h]

theorem Gives.allows (h : d.Gives path value default x) : d.Allows path value := by
  intro item hitem
  rw [Gives, hitem] at h
  exact ⟨x, h⟩

/-! ### What stands where -/

/-- A document that says the same is typed too. -/
theorem Typed.of_item?_eq (h : d.Typed) (hsame : d'.item? = d.item?) : d'.Typed where
  size entry hentry := by
    rw [Allows, hsame]
    exact h.size entry hentry
  board := by
    rw [hsame]
    exact h.board
  text entry hentry := by
    rw [Allows, hsame]
    exact h.text entry hentry

/-- The same settings are taken from documents that say the same. -/
theorem Takes.of_item?_eq {s : Settings} (h : d.Takes s) (hsame : d'.item? = d.item?) :
    d'.Takes s where
  size entry hentry := by
    rw [Gives, hsame]
    exact h.size entry hentry
  text entry hentry := by
    rw [Gives, hsame]
    exact h.text entry hentry

/-- A document leaves nothing open. -/
theorem Takes.unique {s s' : Settings} (h : d.Takes s) (h' : d.Takes s') : s = s' := by
  have hsize : ∀ entry ∈ Settings.sizes, entry.2 s = entry.2 s' := fun entry hentry =>
    (h.size entry hentry).unique (fun _ _ heq => Int.ofNat.inj (Value.integer.inj heq))
      (h'.size entry hentry)
  have htext : ∀ entry ∈ BoardFacts.texts, entry.2 s.facts = entry.2 s'.facts := fun entry hentry =>
    (h.text entry hentry).unique (fun _ _ heq => Value.text.inj heq) (h'.text entry hentry)
  obtain ⟨stagingCapacity, bufferSize, facts⟩ := s
  obtain ⟨stagingCapacity', bufferSize', facts'⟩ := s'
  cases facts
  cases facts'
  simp only [Settings.sizes, List.forall_mem_cons] at hsize
  simp only [BoardFacts.texts, List.forall_mem_cons] at htext
  obtain ⟨rfl, rfl, -⟩ := hsize
  obtain ⟨rfl, rfl, rfl, rfl, rfl, rfl, rfl, rfl, -⟩ := htext
  rfl

/-- A document from which settings can be taken is typed, if `board` is no value. -/
theorem Takes.typed {s : Settings} (h : d.Takes s)
    (hboard : ∀ item, d.item? ["board"] = some item → item = .table) : d.Typed where
  size entry hentry := (h.size entry hentry).allows
  board := hboard
  text entry hentry := (h.text entry hentry).allows

/-! ### Reading -/

theorem Allows.exists_numberAt? (h : d.Allows path ofSize) (default : Nat) :
    ∃ n, Settings.numberAt? d path default = some n ∧ d.Gives path ofSize default n := by
  unfold Settings.numberAt? Gives
  cases hitem : d.item? path with
  | none => exact ⟨default, rfl, rfl⟩
  | some item =>
    obtain ⟨n, rfl⟩ := h item hitem
    exact ⟨n, if_pos (Int.natCast_nonneg n), rfl⟩

theorem Allows.exists_textAt? (h : d.Allows path .text) (default : String) :
    ∃ s, Settings.textAt? d path default = some s ∧ d.Gives path .text default s := by
  unfold Settings.textAt? Gives
  cases hitem : d.item? path with
  | none => exact ⟨default, rfl, rfl⟩
  | some item =>
    obtain ⟨s, rfl⟩ := h item hitem
    exact ⟨s, rfl, rfl⟩

/-- Settings can be taken from every document that is typed. -/
theorem Typed.exists_takes (h : d.Typed) : ∃ s, Settings.ofDocument? d = some s ∧ d.Takes s := by
  have hsize := fun entry hentry => (h.size entry hentry).exists_numberAt? (entry.2 {})
  have htext := fun entry hentry => (h.text entry hentry).exists_textAt? (entry.2 {})
  simp only [Settings.sizes, List.forall_mem_cons] at hsize
  simp only [BoardFacts.texts, List.forall_mem_cons] at htext
  obtain ⟨⟨stagingCapacity, hstaging, hstaging'⟩, ⟨bufferSize, hbuffer, hbuffer'⟩, -⟩ := hsize
  obtain ⟨⟨product, hproduct, hproduct'⟩, ⟨variant, hvariant, hvariant'⟩,
    ⟨version, hversion, hversion'⟩, ⟨secure, hsecure, hsecure'⟩,
    ⟨unlocked, hunlocked, hunlocked'⟩, ⟨charge, hcharge, hcharge'⟩,
    ⟨voltage, hvoltage, hvoltage'⟩, ⟨soc, hsoc, hsoc'⟩, -⟩ := htext
  let facts : BoardFacts :=
    ⟨product, variant, version, secure, unlocked, charge, voltage, soc⟩
  have hboard : d.item? ["board"] = none ∨ d.item? ["board"] = some .table := by
    cases hitem : d.item? ["board"] with
    | none => exact .inl rfl
    | some item => exact .inr (congrArg some (h.board item hitem))
  have hfacts : Settings.factsOf? d = some facts := by
    rcases hboard with hboard | hboard <;>
      simp [Settings.factsOf?, hboard, hproduct, hvariant, hversion, hsecure, hunlocked, hcharge,
        hvoltage, hsoc, facts]
  have hsettings : Settings.ofDocument? d = some ⟨stagingCapacity, bufferSize, facts⟩ := by
    simp [Settings.ofDocument?, hstaging, hbuffer, hfacts]
  refine ⟨_, hsettings, ?_, ?_⟩
  · simp only [Settings.sizes, List.forall_mem_cons]
    exact ⟨hstaging', hbuffer', nofun⟩
  · simp only [BoardFacts.texts, List.forall_mem_cons]
    exact ⟨hproduct', hvariant', hversion', hsecure', hunlocked', hcharge', hvoltage', hsoc', nofun⟩

end Document

namespace Settings

open Document

variable {format : Format} {s : Settings} {text : String} {d : Document} {ls : List Line}

/-- Settings are loaded from a document exactly if they are valid. -/
theorem loadFrom_iff (hd : format.read? text = some d) (hs : ofDocument? d = some s) :
    (loadFrom format text.toUTF8 = .ok s ↔ s.check = .ok ()) ∧
      ∀ e, s.check = .error e → loadFrom format text.toUTF8 = .error (.settings e) := by
  cases hcheck : s.check with
  | ok =>
    have hload : loadFrom format text.toUTF8 = .ok s := by
      simp only [loadFrom, Text.fromUTF8?_toUTF8, Settings.parse, hd, Option.bind_some, hs, hcheck]
    exact ⟨iff_of_true hload rfl, nofun⟩
  | error e =>
    have hload : loadFrom format text.toUTF8 = .error (.settings e) := by
      simp only [loadFrom, Text.fromUTF8?_toUTF8, Settings.parse, hd, Option.bind_some, hs, hcheck]
    rw [hload]
    exact ⟨iff_of_false nofun nofun, fun _ he => by cases he; rfl⟩

/-! ### Saved settings -/

theorem inRange_natCast {n : Nat} (h : n < 2 ^ 63) : inRange (n : Int) = true := by
  have hsize : maxSize = 2 ^ 63 := rfl
  simp only [inRange, hsize, Bool.and_eq_true, decide_eq_true_eq]
  omega

theorem lines_sheet (s : Settings) : s.sheet.lines =
    (sizes.map fun entry => .entry entry.1 (ofSize (entry.2 s))) ++ .table ["board"] ::
      BoardFacts.texts.map fun entry => .entry entry.1 (.text (entry.2 s.facts)) :=
  rfl

theorem isPlain_sheet (hsizes : ∀ entry ∈ sizes, entry.2 s < 2 ^ 63) (hplain : s.facts.IsPlain) :
    ∀ line ∈ s.sheet.lines, line.IsPlain := by
  have hsizeKeys : ∀ entry ∈ sizes, IsBareKey entry.1 := by decide
  have htextKeys : ∀ entry ∈ BoardFacts.texts, IsBareKey entry.1 := by decide
  rw [lines_sheet, List.forall_mem_append, List.forall_mem_cons, List.forall_mem_map,
    List.forall_mem_map]
  exact ⟨fun entry hentry => ⟨hsizeKeys entry hentry, inRange_natCast (hsizes entry hentry)⟩,
    by decide, fun entry hentry => ⟨htextKeys entry hentry, hplain entry hentry⟩⟩

/-- What is written of settings. -/
def toDocument (s : Settings) : Document :=
  gathered s.sheet.lines

theorem entries_toDocument (s : Settings) : s.toDocument.entries =
    (sizes.map fun entry => ([entry.1], ofSize (entry.2 s))) ++
      BoardFacts.texts.map fun entry => (["board", entry.1], .text (entry.2 s.facts)) :=
  rfl

theorem paths_toDocument (s : Settings) : s.toDocument.paths =
    (sizes.map fun entry => [entry.1]) ++ BoardFacts.texts.map fun entry => ["board", entry.1] := by
  rw [paths, entries_toDocument, List.map_append, List.map_map, List.map_map]
  rfl

theorem tables_toDocument (s : Settings) : s.toDocument.tables = [["board"]] := rfl

theorem coherent_toDocument (s : Settings) : s.toDocument.Coherent where
  paths_nodup := by
    rw [paths_toDocument]
    decide
  tables_nodup := by
    rw [tables_toDocument]
    decide
  apart := by
    rw [paths_toDocument, tables_toDocument]
    decide

theorem takes_toDocument (s : Settings) : s.toDocument.Takes s where
  size entry hentry := by
    refine gives_of_value?_eq ((coherent_toDocument s).value?_eq_some ?_)
    rw [entries_toDocument]
    exact List.mem_append_left _ (List.mem_map_of_mem hentry)
  text entry hentry := by
    refine gives_of_value?_eq ((coherent_toDocument s).value?_eq_some ?_)
    rw [entries_toDocument]
    exact List.mem_append_right _ (List.mem_map_of_mem hentry)

theorem typed_toDocument (s : Settings) : s.toDocument.Typed :=
  (takes_toDocument s).typed (by rintro _ ⟨⟩; rfl)

/-- **What is loaded.** In every format that does as documented, valid settings that need no escapes are
loaded as they were saved. A text that is read as a document, whatever keys and tables this has besides those
of the settings and whatever values they have, gives the settings that the document says, with the defaults
for all keys that it leaves out; and so does a text that spells lines, in any order. In each case they are
loaded exactly if they are valid, and the rule that they break is reported otherwise. -/
theorem load_documents (hformat : format.Lawful) :
    (∀ s : Settings, s.check = .ok () → s.bufferSize < 2 ^ 63 → s.facts.IsPlain →
      ∃ text, s.save? format = some text ∧ loadFrom format text.toUTF8 = .ok s) ∧
    (∀ text d, format.read? text = some d → d.Typed →
      ∃ s, d.Takes s ∧ (loadFrom format text.toUTF8 = .ok s ↔ s.check = .ok ()) ∧
        ∀ e, s.check = .error e → loadFrom format text.toUTF8 = .error (.settings e)) ∧
    (∀ text ls, Spells text ls → (gathered ls).Coherent → (gathered ls).Typed →
      ∃ s, (gathered ls).Takes s ∧ (loadFrom format text.toUTF8 = .ok s ↔ s.check = .ok ()) ∧
        ∀ e, s.check = .error e → loadFrom format text.toUTF8 = .error (.settings e)) := by
  have hread (text : String) (d : Document) (hd : format.read? text = some d) (htyped : d.Typed) :
      ∃ s, d.Takes s ∧ (loadFrom format text.toUTF8 = .ok s ↔ s.check = .ok ()) ∧
        ∀ e, s.check = .error e → loadFrom format text.toUTF8 = .error (.settings e) := by
    obtain ⟨s, hs, htakes⟩ := htyped.exists_takes
    exact ⟨s, htakes, loadFrom_iff hd hs⟩
  refine ⟨fun s hcheck hbuffer hplain => ?_, hread, fun text ls hspells hcoherent htyped => ?_⟩
  · -- The other size needs no hypothesis: valid settings have a capacity of 32 bits.
    have hstaging : s.stagingCapacity < 2 ^ 63 :=
      (check_eq_ok_iff.mp hcheck).stagingCapacity_lt.trans (by decide)
    have hsizes : ∀ entry ∈ sizes, entry.2 s < 2 ^ 63 := by
      simp only [sizes, List.forall_mem_cons]
      exact ⟨hstaging, hbuffer, nofun⟩
    obtain ⟨text, d, hwrite, hd, hitem⟩ :=
      hformat.exists_document (isPlain_sheet hsizes hplain) (coherent_toDocument s)
    obtain ⟨s', htakes, hload, -⟩ := hread text d hd ((typed_toDocument s).of_item?_eq hitem)
    obtain rfl := htakes.unique ((takes_toDocument s).of_item?_eq hitem)
    exact ⟨text, hwrite, hload.mpr hcheck⟩
  · obtain ⟨d, hd, hitem⟩ := hformat.reads hspells hcoherent
    obtain ⟨s, htakes, hload⟩ := hread text d hd (htyped.of_item?_eq hitem)
    exact ⟨s, htakes.of_item?_eq hitem.symm, hload⟩

/-- The lines of a document that leaves most keys out, has one that is not known, and one in a table of its
own. -/
def sparseLines : List Line :=
  [.entry "ep_buffer_size" (.integer 1024), .entry "verbose" (.boolean true), .table ["board"],
   .entry "product" (.text "rk3399 ✓"), .blank, .table ["board", "usb"],
   .entry "product" (.integer (-7)), .blank]

/-- What they make of the defaults. -/
def sparse : Settings :=
  { bufferSize := 1024, facts := { product := "rk3399 ✓" } }

theorem takes_sparse : (gathered sparseLines).Takes sparse where
  size := by
    simp only [sizes, List.forall_mem_cons]
    exact ⟨rfl, rfl, nofun⟩
  text := by
    simp only [BoardFacts.texts, List.forall_mem_cons]
    exact ⟨rfl, rfl, rfl, rfl, rfl, rfl, rfl, rfl, nofun⟩

/-- In the format at hand, settings are saved and loaded, and taken from lines that say less and more. -/
theorem load_documents_sparse :
    sparse.check = .ok () ∧ sparse.facts.IsPlain ∧ sparse.save? Document.format = some sparse.print ∧
      load sparse.print.toUTF8 = .ok sparse ∧
      Spells (printLines sparseLines.dropLast) sparseLines ∧
      load (printLines sparseLines.dropLast).toUTF8 = .ok sparse := by
  have hcheck : sparse.check = .ok () :=
    check_eq_ok_iff.mpr ⟨by decide, by decide, by decide, by decide⟩
  have hplain : sparse.facts.IsPlain := by decide
  have hspells : Spells (printLines sparseLines.dropLast) sparseLines :=
    spells_printLines (by decide : ∀ line ∈ sparseLines.dropLast, line.IsPlain)
  have hcoherent : (gathered sparseLines).Coherent := ⟨by decide, by decide, by decide⟩
  have htyped : (gathered sparseLines).Typed := takes_sparse.typed (by rintro _ ⟨⟩; rfl)
  obtain ⟨hsaved, -, hspelled⟩ := load_documents lawful_format
  obtain ⟨text, hsave, hload⟩ := hsaved sparse hcheck (by decide) hplain
  have hprint : sparse.save? Document.format = some sparse.print := write?_format (by decide)
  obtain rfl : text = sparse.print := Option.some.inj (hsave.symm.trans hprint)
  obtain ⟨s, htakes, hgiven, -⟩ := hspelled _ sparseLines hspells hcoherent htyped
  obtain rfl := htakes.unique takes_sparse
  exact ⟨hcheck, hplain, hprint, hload, hspells, hgiven.mpr hcheck⟩

end Settings

end Fastboot
