import Fastboot.Proofs.Command.Size
import Fastboot.Proofs.Document.Value
import Fastboot.Proofs.Text.Lines
import Mathlib.Data.List.Forall2

/-!
# Spelled documents

`Document.Spelling` says how a line can be spelled, without the reader: white space where it does not
matter, bare keys, a value as it is printed, and maybe a comment. Such a line is read as the line that it
spells (`lineEnd?_of_spelling`), and a text of such lines as the document that they make up
(`parse?_of_spells`). What is printed is spelled so (`spells_printLines`).
-/

namespace Fastboot

/-- A key that needs no quotes. -/
structure Document.IsBareKey (key : String) : Prop where
  ne_nil : key.toList ≠ []
  isBare : ∀ c ∈ key.toList, isBare c = true

instance (key : String) : Decidable (Document.IsBareKey key) :=
  decidable_of_iff (key.toList ≠ [] ∧ key.toList.all Document.isBare = true)
    ⟨fun h => ⟨h.1, List.all_eq_true.mp h.2⟩, fun h => ⟨h.1, List.all_eq_true.mpr h.2⟩⟩

/-- A value that is spelled as it is printed: a number of 64 bits with a sign, a text that needs no
escapes, or a boolean. -/
def Value.IsPlain : Value → Prop
  | integer n => Document.inRange n = true
  | text s => ∀ c ∈ s.toList, Document.IsPlain c
  | boolean _ => True
  | other => False

instance Value.decidableIsPlain : (value : Value) → Decidable value.IsPlain
  | .integer n => inferInstanceAs (Decidable (Document.inRange n = true))
  | .text s => List.decidableBAll Document.IsPlain s.toList
  | .boolean _ => inferInstanceAs (Decidable True)
  | .other => inferInstanceAs (Decidable False)

/-- A line that is spelled as it is printed. -/
def Line.IsPlain : Line → Prop
  | blank => True
  | table path => path ≠ [] ∧ path.length ≤ Document.maxKeys ∧
    ∀ key ∈ path, Document.IsBareKey key
  | entry key value => Document.IsBareKey key ∧ value.IsPlain

instance Line.decidableIsPlain : (line : Line) → Decidable line.IsPlain
  | .blank => inferInstanceAs (Decidable True)
  | .table path =>
    have := List.decidableBAll Document.IsBareKey path
    inferInstanceAs (Decidable (path ≠ [] ∧ path.length ≤ Document.maxKeys ∧ _))
  | .entry key value => inferInstanceAs (Decidable (Document.IsBareKey key ∧ value.IsPlain))

namespace Document

open Text

variable {cs space rest : List Char} {c : Char} {key : String} {path : Path} {value : Value}
  {line : Line}

/-! ### White space -/

theorem isSpace_iff : isSpace c = true ↔ c = ' ' ∨ c = '\t' := by
  simp [isSpace]

theorem skipSpace_append (h : ∀ c ∈ space, isSpace c = true) :
    skipSpace (space ++ cs) = skipSpace cs :=
  List.dropWhile_append_of_pos h

theorem skipSpace_cons (h : isSpace c = false) : skipSpace (c :: cs) = c :: cs :=
  List.dropWhile_cons_of_neg (by simp [h])

/-- Behind what a line says stands a white space, a comment or nothing. -/
theorem head?_of_atEnd (h : atEnd rest = true) :
    ∀ c ∈ rest.head?, isSpace c = true ∨ c = '#' := by
  cases rest with
  | nil => nofun
  | cons c rest =>
    rintro _ ⟨⟩
    by_cases hspace : isSpace c = true
    · exact .inl hspace
    · rw [atEnd, skipSpace_cons (Bool.eq_false_iff.mpr hspace)] at h
      refine .inr (Decidable.by_contra fun hne => ?_)
      split at h
      · rename_i heq
        cases heq
      · rename_i heq
        cases heq
        exact hne rfl
      · cases h

/-! ### Keys -/

theorem ne_of_isBare (h : isBare c = true) {d : Char} (hd : isBare d = false) : c ≠ d := by
  rintro rfl
  rw [h] at hd
  cases hd

theorem isSpace_of_isBare (h : isBare c = true) : isSpace c = false := by
  rw [Bool.eq_false_iff, ne_eq, isSpace_iff]
  rintro (rfl | rfl)
  · exact ne_of_isBare h (d := ' ') (by decide) rfl
  · exact ne_of_isBare h (d := '\t') (by decide) rfl

theorem IsBareKey.exists_cons (h : IsBareKey key) :
    ∃ c cs, key.toList = c :: cs ∧ Document.isBare c = true := by
  obtain ⟨c, cs, hcons⟩ := List.exists_cons_of_ne_nil h.ne_nil
  exact ⟨c, cs, hcons, h.isBare c (hcons ▸ List.mem_cons_self)⟩

theorem IsBareKey.skipSpace_append (h : IsBareKey key) (rest : List Char) :
    skipSpace (key.toList ++ rest) = key.toList ++ rest := by
  obtain ⟨c, cs, hcons, hc⟩ := h.exists_cons
  rw [hcons, List.cons_append, skipSpace_cons (isSpace_of_isBare hc)]

theorem IsBareKey.key?_append (h : IsBareKey key)
    (hrest : ∀ c ∈ rest.head?, Document.isBare c = false) :
    key? (key.toList ++ rest) = some (key, rest) := by
  have htake : (key.toList ++ rest).takeWhile Document.isBare = key.toList := by
    rw [List.takeWhile_append_of_pos h.isBare, Command.takeWhile_of_head? hrest, List.append_nil]
  have hdrop : (key.toList ++ rest).dropWhile Document.isBare = rest := by
    rw [List.dropWhile_append_of_pos h.isBare, Command.dropWhile_of_head? hrest]
  obtain ⟨c, cs, hcons, hc⟩ := h.exists_cons
  have hkey : String.ofList (c :: cs) = key := by rw [← hcons, String.ofList_toList]
  rw [hcons] at htake hdrop ⊢
  unfold key?
  split
  · rename_i heq
    exact absurd (List.head_eq_of_cons_eq heq) (ne_of_isBare hc (by decide))
  · rename_i heq
    exact absurd (List.head_eq_of_cons_eq heq) (ne_of_isBare hc (by decide))
  · rw [htake, hdrop, ← hkey]

/-- The keys of a header, with dots between them. -/
def dotted (path : Path) : List Char :=
  ['.'].intercalate (path.map String.toList)

theorem dotted_singleton (key : String) : dotted [key] = key.toList := by
  simp [dotted]

theorem dotted_cons_cons (key next : String) (path : Path) :
    dotted (key :: next :: path) = key.toList ++ '.' :: dotted (next :: path) := by
  simp [dotted, List.intercalate]

theorem path?_dotted (hne : path ≠ []) {limit : Nat} (hlimit : path.length ≤ limit)
    (hbare : ∀ key ∈ path, IsBareKey key) (rest : List Char) :
    path? limit (dotted path ++ ']' :: rest) = some (path, rest) := by
  induction path generalizing limit with
  | nil => exact absurd rfl hne
  | cons key path ih =>
    obtain ⟨limit, rfl⟩ : ∃ l, limit = l + 1 := ⟨limit - 1, by simp at hlimit; omega⟩
    rw [List.forall_mem_cons] at hbare
    cases path with
    | nil =>
      have hkey : key? (key.toList ++ ']' :: rest) = some (key, ']' :: rest) :=
        hbare.1.key?_append (by rintro _ ⟨⟩; decide)
      rw [path?, dotted_singleton, hbare.1.skipSpace_append, hkey]
      dsimp only
      rw [skipSpace_cons (by decide)]
      rfl
    | cons next path =>
      have hkey : key? (key.toList ++ '.' :: (dotted (next :: path) ++ ']' :: rest)) =
          some (key, '.' :: (dotted (next :: path) ++ ']' :: rest)) :=
        hbare.1.key?_append (by rintro _ ⟨⟩; decide)
      rw [path?, dotted_cons_cons, List.append_assoc, List.cons_append,
        hbare.1.skipSpace_append, hkey]
      dsimp only
      rw [skipSpace_cons (by decide)]
      exact congrArg (Option.map _) (ih nofun (Nat.le_of_succ_le_succ hlimit) hbare.2)

/-! ### Values -/

theorem isPart_of_isBare (h : isBare c = true) : (!isSpace c && c != '#') = true := by
  have hne : c ≠ '#' := ne_of_isBare h (by decide)
  simp [isSpace_of_isBare h, hne]

/-- A value without quotes is as long as its line says. -/
theorem withValue?_scalar (hbare : ∀ c ∈ cs, isBare c = true) (hcs : cs ≠ [])
    (hvalue : scalar? cs = some value) (hend : atEnd rest = true) :
    withValue? key (cs ++ rest) = some (.whole (.entry key value)) := by
  have hpart : ∀ c ∈ cs, (!isSpace c && c != '#') = true := fun c hc => isPart_of_isBare (hbare c hc)
  have hrest : ∀ c ∈ rest.head?, (!isSpace c && c != '#') = false := by
    intro c hc
    rcases head?_of_atEnd hend c hc with hspace | rfl
    · simp [hspace]
    · decide
  have htake : (cs ++ rest).takeWhile (fun c => !isSpace c && c != '#') = cs := by
    rw [List.takeWhile_append_of_pos hpart, Command.takeWhile_of_head? hrest, List.append_nil]
  have hdrop : (cs ++ rest).dropWhile (fun c => !isSpace c && c != '#') = rest := by
    rw [List.dropWhile_append_of_pos hpart, Command.dropWhile_of_head? hrest]
  have hopen : Quotes.open? (cs ++ rest) = none := by
    cases cs with
    | nil => exact absurd rfl hcs
    | cons c cs =>
      have hc := hbare c List.mem_cons_self
      have hdouble : c ≠ '"' := ne_of_isBare hc (by decide)
      have hsingle : c ≠ '\'' := ne_of_isBare hc (by decide)
      rw [List.cons_append, Quotes.open?] <;> simp [hdouble, hsingle]
  unfold withValue?
  rw [hopen]
  dsimp only
  rw [htake, hdrop, hvalue]
  exact if_pos hend

theorem withValue?_text {s : String} (hplain : ∀ c ∈ s.toList, IsPlain c)
    (hend : atEnd rest = true) :
    withValue? key (Quotes.print s.toList ++ rest) = some (.whole (.entry key (.text s))) := by
  have hopen : Quotes.open? (Quotes.print s.toList ++ rest) =
      some (.basic, s.toList ++ '"' :: rest) := by
    rw [Quotes.print_plain hplain, List.append_assoc, List.cons_append, List.singleton_append]
    cases hcs : s.toList with
    | nil =>
      cases rest with
      | nil => rfl
      | cons c rest =>
        have hc : c ≠ '"' := by
          rintro rfl
          have hhead := head?_of_atEnd hend '"' rfl
          revert hhead
          decide
        rw [List.nil_append, Quotes.open?]
        simp [hc]
    | cons c cs =>
      have hc := (hplain c (hcs ▸ List.mem_cons_self)).ne_quote
      rw [List.cons_append, Quotes.open?]
      simp [hc]
  have hread : Quotes.basic.read? (s.toList ++ '"' :: rest) = some (.closed s.toList rest) :=
    Quotes.readAfter?_plain hplain []
  unfold withValue?
  rw [hopen]
  dsimp only
  rw [hread, Option.bind_some, withText?, if_pos hend, String.ofList_toList]

theorem scalar?_integer {n : Int} (h : inRange n = true) :
    scalar? (toString n).toList = some (.integer n) := by
  have hrange := h
  simp only [inRange, Bool.and_eq_true, decide_eq_true_eq] at hrange
  have hinteger := integer?_toString (n := n) (by omega)
  have hne (word : List Char) (hword : integer? word = none) : (toString n).toList ≠ word := by
    rintro rfl
    rw [hword] at hinteger
    cases hinteger
  rw [scalar?, if_neg (hne _ rfl), if_neg (hne _ rfl), hinteger, Option.filter_some, if_pos h]
  rfl

theorem isBare_of_mem_toString (n : Int) : ∀ c ∈ (toString n).toList, isBare c = true := by
  have hdigits (m : Nat) : ∀ c ∈ Nat.toDigits 10 m, isBare c = true := by
    intro c hc
    have hdigit := Nat.isDigit_of_mem_toDigits (by decide) (by decide) hc
    simp [isBare, Char.isAlphanum, hdigit]
  cases n with
  | ofNat n =>
    rw [toList_toString_ofNat]
    exact hdigits n
  | negSucc n =>
    rw [toList_toString_negSucc, List.forall_mem_cons]
    exact ⟨by decide, hdigits (n + 1)⟩

theorem toList_toString_ne_nil (n : Int) : (toString n).toList ≠ [] := by
  cases n with
  | ofNat n =>
    rw [toList_toString_ofNat]
    exact Nat.toDigits_ne_nil
  | negSucc n =>
    rw [toList_toString_negSucc]
    exact List.cons_ne_nil _ _

/-- What is printed for a value is read as that value. -/
theorem withValue?_print (hplain : value.IsPlain) (hend : atEnd rest = true) :
    withValue? key (value.print ++ rest) = some (.whole (.entry key value)) := by
  cases value with
  | integer n =>
    exact withValue?_scalar (isBare_of_mem_toString n) (toList_toString_ne_nil n)
      (scalar?_integer hplain) hend
  | text s => exact withValue?_text hplain hend
  | boolean b =>
    have hbare : (toString b).toList.all isBare = true := by cases b <;> rfl
    cases b
    · exact withValue?_scalar (List.all_eq_true.mp hbare) (by decide) rfl hend
    · exact withValue?_scalar (List.all_eq_true.mp hbare) (by decide) rfl hend
  | other => cases hplain

/-- A value starts with no white space. -/
theorem skipSpace_print (hplain : value.IsPlain) (rest : List Char) :
    skipSpace (value.print ++ rest) = value.print ++ rest := by
  have hbare (cs : List Char) (hne : cs ≠ []) (h : ∀ c ∈ cs, isBare c = true) :
      skipSpace (cs ++ rest) = cs ++ rest := by
    obtain ⟨c, cs, rfl⟩ := List.exists_cons_of_ne_nil hne
    exact skipSpace_cons (isSpace_of_isBare (h c List.mem_cons_self))
  cases value with
  | integer n => exact hbare _ (toList_toString_ne_nil n) (isBare_of_mem_toString n)
  | text s =>
    rw [Value.print, Quotes.print_plain hplain]
    exact skipSpace_cons (by decide)
  | boolean b => cases b <;> exact skipSpace_cons (by decide)
  | other => cases hplain

/-! ### Lines -/

/-- How a line can be spelled: with white space before it and around the equals sign, and with a comment
behind it. Keys and values are as they are printed. -/
inductive Spelling : Line → List Char → Prop where
  | blank {cs : List Char} (hend : atEnd cs = true) : Spelling .blank cs
  | table {path : Path} {space rest : List Char} (hne : path ≠ [])
      (hlength : path.length ≤ maxKeys) (hbare : ∀ key ∈ path, IsBareKey key)
      (hspace : ∀ c ∈ space, isSpace c = true) (hend : atEnd rest = true) :
      Spelling (.table path) (space ++ ('[' :: dotted path ++ [']']) ++ rest)
  | entry {key : String} {value : Value} {space before after rest : List Char}
      (hbare : IsBareKey key) (hplain : value.IsPlain) (hspace : ∀ c ∈ space, isSpace c = true)
      (hbefore : ∀ c ∈ before, isSpace c = true) (hafter : ∀ c ∈ after, isSpace c = true)
      (hend : atEnd rest = true) :
      Spelling (.entry key value)
        (space ++ key.toList ++ before ++ '=' :: after ++ value.print ++ rest)

theorem lineEnd?_of_atEnd (h : atEnd cs = true) : lineEnd? cs = some (.whole .blank) := by
  unfold atEnd at h
  unfold lineEnd?
  split at h
  · rename_i heq
    rw [heq]
  · rename_i heq
    rw [heq]
    exact if_pos h
  · cases h

/-- A spelled line is read as the line that it spells. -/
theorem lineEnd?_of_spelling (h : Spelling line cs) : lineEnd? cs = some (.whole line) := by
  cases h with
  | blank hend => exact lineEnd?_of_atEnd hend
  | @table path space rest hne hlength hbare hspace hend =>
    have hskip : skipSpace (space ++ ('[' :: dotted path ++ [']']) ++ rest) =
        '[' :: (dotted path ++ ']' :: rest) := by
      rw [List.append_assoc, skipSpace_append hspace, List.cons_append, List.cons_append,
        skipSpace_cons (by decide), List.append_assoc, List.singleton_append]
    have hpath := path?_dotted hne hlength hbare rest
    unfold lineEnd?
    rw [hskip]
    simp only [hpath]
    exact if_pos hend
  | @entry key value space before after rest hbare hplain hspace hbefore hafter hend =>
    have hskip : skipSpace (space ++ key.toList ++ before ++ '=' :: after ++ value.print ++ rest) =
        key.toList ++ (before ++ '=' :: (after ++ (value.print ++ rest))) := by
      simp only [List.append_assoc, List.cons_append]
      rw [skipSpace_append hspace, hbare.skipSpace_append]
    have hrest : ∀ c ∈ (before ++ '=' :: (after ++ (value.print ++ rest))).head?,
        isBare c = false := by
      cases before with
      | nil => rintro _ ⟨⟩; decide
      | cons c before =>
        rintro _ ⟨⟩
        rcases isSpace_iff.mp (hbefore c List.mem_cons_self) with rfl | rfl <;> decide
    have hkey := hbare.key?_append hrest
    have hsign : skipSpace (before ++ '=' :: (after ++ (value.print ++ rest))) =
        '=' :: (after ++ (value.print ++ rest)) := by
      rw [skipSpace_append hbefore, skipSpace_cons (by decide)]
    have hvalue : skipSpace (after ++ (value.print ++ rest)) = value.print ++ rest := by
      rw [skipSpace_append hafter, skipSpace_print hplain]
    unfold lineEnd?
    rw [hskip]
    obtain ⟨c, ds, hcons, hc⟩ := hbare.exists_cons
    have hcomment : c ≠ '#' := ne_of_isBare hc (by decide)
    have hheader : c ≠ '[' := ne_of_isBare hc (by decide)
    rw [hcons, List.cons_append] at hkey ⊢
    -- The other forms of a line start with what no bare key starts with.
    split
    · rename_i heq
      cases heq
    · rename_i heq
      cases heq
      exact absurd rfl hcomment
    · rename_i heq
      cases heq
      exact absurd rfl hheader
    · rw [hkey]
      dsimp only
      rw [hsign]
      show withValue? key (skipSpace (after ++ (value.print ++ rest))) = _
      rw [hvalue]
      exact withValue?_print hplain hend

/-! ### Documents -/

/-- A text that spells lines, one after the other. A byte order mark may stand in front of it. -/
def Spells (text : String) (ls : List Line) : Prop :=
  List.Forall₂ Spelling ls (lines (dropMark text.toList))

theorem read?_of_spelling (h : Spelling line cs) (before : Array Line) :
    Progress.read? { lines := before } cs = some { lines := before.push line } := by
  simp only [Progress.read?, lineEnd?_of_spelling h]

theorem foldlM_read? {ls : List Line} {spelled : List (List Char)}
    (h : List.Forall₂ Spelling ls spelled) (before : Array Line) :
    spelled.foldlM Progress.read? { lines := before } =
      some { lines := before ++ ls.toArray } := by
  induction h generalizing before with
  | nil => simp
  | cons hline _ ih =>
    rw [List.foldlM_cons, read?_of_spelling hline, Option.bind_eq_bind, Option.bind_some, ih]
    simp

theorem parse?_of_spells {text : String} {ls : List Line} (h : Spells text ls) :
    parse? text = ofLines? ls := by
  have hread := foldlM_read? h #[]
  unfold parse?
  rw [hread]
  simp

/-! ### Printed documents -/

theorem le_toNat_of_isBare (h : isBare c = true) : 0x20 ≤ c.toNat := by
  have hcontrol : ∀ n < 0x20, isBare (Char.ofNat n) = false := by decide
  by_contra hlt
  have hfalse := hcontrol c.toNat (Nat.not_le.mp hlt)
  rw [Char.ofNat_toNat, h] at hfalse
  cases hfalse

/-- A plain value has no control characters. -/
theorem le_toNat_of_mem_value (hplain : value.IsPlain) (hc : c ∈ value.print) : 0x20 ≤ c.toNat := by
  cases value with
  | integer n => exact le_toNat_of_isBare (isBare_of_mem_toString n c hc)
  | text s =>
    rw [Value.print, Quotes.print_plain hplain] at hc
    simp only [List.cons_append, List.mem_cons, List.mem_append, List.not_mem_nil, or_false] at hc
    rcases hc with rfl | hc | rfl
    · decide
    · exact (hplain c hc).le_toNat
    · decide
  | boolean b =>
    have hall : (Value.boolean b).print.all (0x20 ≤ ·.toNat) = true := by cases b <;> decide
    exact of_decide_eq_true (List.all_eq_true.mp hall c hc)
  | other => cases hplain

theorem le_toNat_of_mem_dotted (hbare : ∀ key ∈ path, IsBareKey key) (hc : c ∈ dotted path) :
    0x20 ≤ c.toNat := by
  induction path with
  | nil => cases hc
  | cons key path ih =>
    rw [List.forall_mem_cons] at hbare
    cases path with
    | nil =>
      rw [dotted_singleton] at hc
      exact le_toNat_of_isBare (hbare.1.isBare c hc)
    | cons next path =>
      rw [dotted_cons_cons, List.mem_append, List.mem_cons] at hc
      rcases hc with hc | rfl | hc
      · exact le_toNat_of_isBare (hbare.1.isBare c hc)
      · decide
      · exact ih hbare.2 hc

/-- Nor has a plain line. -/
theorem le_toNat_of_mem_print (hplain : line.IsPlain) (hc : c ∈ line.print) : 0x20 ≤ c.toNat := by
  cases line with
  | blank => cases hc
  | table path =>
    have hcs : c ∈ '[' :: dotted path ++ [']'] := hc
    simp only [List.cons_append, List.mem_cons, List.mem_append, List.not_mem_nil, or_false] at hcs
    rcases hcs with rfl | hcs | rfl
    · decide
    · exact le_toNat_of_mem_dotted hplain.2.2 hcs
    · decide
  | entry key value =>
    simp only [Line.print, List.mem_append, List.mem_cons, List.not_mem_nil, or_false] at hc
    rcases hc with (hc | rfl | rfl | rfl) | hc
    · exact le_toNat_of_isBare (hplain.1.isBare c hc)
    · decide
    · decide
    · decide
    · exact le_toNat_of_mem_value hplain.2 hc

theorem spelling_print (h : line.IsPlain) : Spelling line line.print := by
  cases line with
  | blank => exact .blank rfl
  | table path =>
    have hspelling : Spelling (.table path) ([] ++ ('[' :: dotted path ++ [']']) ++ []) :=
      .table h.1 h.2.1 h.2.2 nofun rfl
    rw [List.nil_append, List.append_nil] at hspelling
    exact hspelling
  | entry key value =>
    have hspelling : Spelling (.entry key value)
        ([] ++ key.toList ++ [' '] ++ '=' :: [' '] ++ value.print ++ []) :=
      .entry h.1 h.2 nofun (List.forall_mem_singleton.mpr rfl) (List.forall_mem_singleton.mpr rfl) rfl
    simpa [Line.print] using hspelling

/-- No line starts with a byte order mark. -/
theorem head?_print_ne (hplain : line.IsPlain) (rest : List Char) :
    (line.print ++ '\n' :: rest).head? ≠ some '\ufeff' := by
  cases line with
  | blank => nofun
  | table path => nofun
  | entry key value =>
    obtain ⟨c, cs, hcons, hc⟩ := hplain.1.exists_cons
    rw [Line.print, hcons]
    exact fun hhead => ne_of_isBare hc (d := '\ufeff') (by decide) (Option.some.inj hhead)

theorem dropMark_of_head? (h : cs.head? ≠ some '\ufeff') : dropMark cs = cs := by
  unfold dropMark
  split
  · exact absurd rfl h
  · rfl

/-- **What is printed spells the lines.** The last line feed leaves an empty line behind them. -/
theorem spells_printLines {ls : List Line} (h : ∀ line ∈ ls, line.IsPlain) :
    Spells (printLines ls) (ls ++ [.blank]) := by
  have hprinted : (printLines ls).toList = (ls.map Line.print).flatMap (· ++ ['\n']) := by
    rw [printLines, String.toList_ofList, List.flatMap_map]
  have hmark : dropMark (printLines ls).toList = (printLines ls).toList := by
    refine dropMark_of_head? ?_
    cases ls with
    | nil => nofun
    | cons line ls =>
      rw [hprinted, List.map_cons, List.flatMap_cons, List.append_assoc]
      exact head?_print_ne (h line List.mem_cons_self) _
  have hends : ∀ cs ∈ ls.map Line.print, '\n' ∉ cs ∧ '\r' ∉ cs := by
    intro cs hcs
    obtain ⟨line, hline, rfl⟩ := List.mem_map.mp hcs
    have hcontrol (c : Char) (hlt : c.toNat < 0x20) : c ∉ line.print := fun hc =>
      Nat.not_le.mpr hlt (le_toNat_of_mem_print (h line hline) hc)
    exact ⟨hcontrol '\n' (by decide), hcontrol '\r' (by decide)⟩
  rw [Spells, hmark, hprinted, lines_flatMap hends]
  refine List.rel_append ?_ (List.Forall₂.cons (.blank rfl) .nil)
  rw [List.forall₂_map_right_iff, List.forall₂_same]
  exact fun line hline => spelling_print (h line hline)

end Document

end Fastboot
