import Fastboot.Proofs.Command.Announce
import Fastboot.Proofs.Command.Atomic
import Fastboot.Proofs.Command.Deed

/-!
# Retry counts

To read the retry count of a slot uses up one retry, so the answers to a host that asks again and again count
down to zero. `retryCount_orders` says that they do so whatever else is asked in between, each slot for
itself.

The count of a slot has one name only (`eq_retryName_of_ofName`), and to read a variable changes nothing but
the count that was asked for (`execute_getvar_cases`). The other commands touch neither the counts nor the
slots (`unspent_execute`). So a slot has one retry less for each question for it, and as many as before behind
everything else (`Order.retryCount_run`).
-/

namespace Fastboot

/-- The board has the slot. -/
def Board.HasSlot (b : Board) (slot : Char) : Prop :=
  ∃ slots, b.slots = some slots ∧ slot ∈ slots.suffixes

namespace Command

open Text

variable {t : Target} {b : Board} {slot : Char} {name command : String} {param : Option String}

/-! ### The name of a count -/

/-- The name of the retry count of a slot. -/
def retryName (slot : String) : String :=
  "slot-retry-count:" ++ slot

theorem retryName_eq (slot : String) :
    retryName slot = "slot-retry-count" ++ (String.singleton ':' ++ slot) := by
  rw [← String.append_assoc]
  rfl

theorem splitArgument_retryName (slot : String) :
    splitArgument (retryName slot) = ("slot-retry-count", some slot) := by
  rw [retryName_eq]
  exact cut_append (by decide) slot

theorem retryName_inj {slot other : String} (h : retryName slot = retryName other) :
    slot = other := by
  have hsplit := congrArg splitArgument h
  rw [splitArgument_retryName, splitArgument_retryName] at hsplit
  exact Option.some.inj (Prod.mk.inj hsplit).2

theorem mem_of_lookup {α : Type} {table : List (String × α)} {key : String} {value : α}
    (h : table.lookup key = some value) : (key, value) ∈ table := by
  obtain ⟨front, back, htable, -⟩ := List.lookup_eq_some_iff.mp h
  rw [htable]
  exact List.mem_append_right _ List.mem_cons_self

/-- No name of a variable without a parameter has a colon. -/
theorem colon_notMem_plain : ∀ e ∈ Variable.plain, ':' ∉ e.1.toList := by
  decide +kernel

theorem ofName_retryName (slot : String) :
    Variable.ofName (retryName slot) = .slotRetryCount ((some slot).filter (· != "")) := by
  have hcolon : ':' ∈ (retryName slot).toList := by simp [retryName_eq]
  have hplain : Variable.plain.lookup (retryName slot) = none :=
    List.lookup_eq_none_iff.mpr fun e he =>
      bne_iff_ne.mpr fun hsame => colon_notMem_plain e he (hsame ▸ hcolon)
  rw [Variable.ofName, hplain, argument?, splitArgument_retryName]
  rfl

/-- A variable is the count of a slot by one name only. -/
theorem eq_retryName_of_ofName {slot : String}
    (h : Variable.ofName name = .slotRetryCount (some slot)) : name = retryName slot := by
  rw [Variable.ofName] at h
  split at h
  · rename_i v hplain
    have hmem := mem_of_lookup hplain
    subst h
    simp [Variable.plain] at hmem
  · split at h
    · rename_i v hparam
      have hmem := mem_of_lookup hparam
      simp only [Variable.withParameter, List.mem_cons, Prod.mk.injEq, List.not_mem_nil,
        or_false] at hmem
      -- of the variables with a parameter, one is a count
      have hkey : (splitArgument name).1 = "slot-retry-count" ∧ argument? name = some slot := by
        rcases hmem with ⟨-, rfl⟩ | ⟨-, rfl⟩ | ⟨-, rfl⟩ | ⟨hkey, rfl⟩ | ⟨-, rfl⟩ | ⟨-, rfl⟩
        · cases h
        · cases h
        · cases h
        · exact ⟨hkey, Variable.slotRetryCount.inj h⟩
        · cases h
        · cases h
      obtain ⟨hfront, hback⟩ := hkey
      have hcut : splitArgument name = ("slot-retry-count", some slot) :=
        Prod.ext hfront (Option.filter_eq_some_iff.mp hback).1
      rw [eq_append_of_cut hcut, retryName_eq]
    · cases h

/-! ### Reading a variable -/

theorem named?_eq_some_iff {slots : Slots} :
    slots.named? name = some slot ↔ name = slot.toString ∧ slot ∈ slots.suffixes := by
  have hname : name = slot.toString ↔ name.toList = [slot] := by
    rw [← String.toList_inj]
    simp
  rw [hname, Slots.named?]
  split
  · rename_i c hc
    rw [hc]
    by_cases hmem : c ∈ slots.suffixes
    · simp only [hmem, if_true, Option.some.injEq, List.cons.injEq, and_true]
      exact ⟨fun h => ⟨h, h ▸ hmem⟩, And.left⟩
    · simp only [hmem, if_false, reduceCtorEq, List.cons.injEq, and_true, false_iff]
      rintro ⟨rfl, hslot⟩
      exact hmem hslot
  · rename_i hlist
    exact iff_of_false nofun fun h => hlist slot h.1

/-- A parameter names a slot that the board has. -/
theorem knownSlot_eq_ok_iff : knownSlot b param = .ok slot ↔
    b.HasSlot slot ∧ param = some slot.toString := by
  have hparam : param.getD "" = slot.toString ↔ param = some slot.toString := by
    cases param with
    | none => simp [← String.toList_inj]
    | some name => simp
  simp only [knownSlot, slotsOf, bind_eq_ok_iff, require_eq_ok_iff, named?_eq_some_iff, hparam,
    Board.HasSlot]
  constructor
  · rintro ⟨slots, hslots, hname, hmem⟩
    exact ⟨⟨slots, hslots, hmem⟩, hname⟩
  · rintro ⟨⟨slots, hslots, hmem⟩, hname⟩
    exact ⟨slots, hslots, hname, hmem⟩

/-- The count of a slot is reported, and one retry used up. -/
theorem getvar_of_hasSlot (hasks : argument? command = some (retryName slot.toString))
    (hslot : t.board.HasSlot slot) : getvar command t =
      .ok ({ response := .okay (toString (t.transfer.retryCount slot).toNat) },
        { t with transfer := t.transfer.countRetry slot }) := by
  have hname : Variable.ofName (retryName slot.toString) =
      .slotRetryCount (some slot.toString) := by
    rw [ofName_retryName, Option.filter_some, if_pos (by simp [← String.toList_inj])]
  have hknown : knownSlot t.board (some slot.toString) = .ok slot :=
    knownSlot_eq_ok_iff.mpr ⟨hslot, rfl⟩
  have hvalue : (Variable.ofName (retryName slot.toString)).value t =
      .ok (toString (t.transfer.retryCount slot).toNat) := by
    rw [hname]
    exact bind_eq_ok_iff.mpr ⟨slot, hknown, rfl⟩
  have hafter : (Variable.ofName (retryName slot.toString)).afterRead t =
      { t with transfer := t.transfer.countRetry slot } := by
    simp only [hname, Variable.afterRead, hknown]
  obtain ⟨f, hframe⟩ := InPlace.exists_frame_retryCount (t.transfer.retryCount slot)
  refine bind_eq_ok_iff.mpr ⟨_, require_eq_ok_iff.mpr hasks, bind_eq_ok_iff.mpr ⟨_, hvalue,
    bind_eq_ok_iff.mpr ⟨f, mapError_eq_ok_iff.mpr hframe, ?_⟩⟩⟩
  rw [hafter]
  rfl

/-- The count of a slot that the board does not have is refused, and so is one of no slot at all. -/
theorem getvar_of_unknown (hasks : argument? command = some name)
    (hname : name = "slot-retry-count" ∨ ∃ slot, name = retryName slot)
    (hunknown : ∀ slot, t.board.HasSlot slot → name ≠ retryName slot.toString) :
    ∃ fault, getvar command t = .error fault := by
  have hparam : ∃ param, Variable.ofName name = .slotRetryCount param := by
    rcases hname with rfl | ⟨slot, rfl⟩
    · exact ⟨none, by decide +kernel⟩
    · exact ⟨_, ofName_retryName slot⟩
  obtain ⟨param, hvariable⟩ := hparam
  cases hknown : knownSlot t.board param with
  | ok slot =>
    obtain ⟨hslot, rfl⟩ := knownSlot_eq_ok_iff.mp hknown
    exact absurd (eq_retryName_of_ofName hvariable) (hunknown slot hslot)
  | error fault =>
    refine ⟨fault, ?_⟩
    have hvalue : (Variable.ofName name).value t = .error fault := by
      rw [hvariable, Variable.value, hknown]
      rfl
    rw [getvar, argument, hasks]
    show (Variable.ofName name).value t >>= _ = _
    rw [hvalue]
    rfl

/-- To read a variable changes nothing, or uses up one retry of the slot whose count it is. -/
theorem execute_getvar_cases (command : String) (t : Target) :
    (execute .getvar command t).2 = t ∨
      ∃ slot, t.board.HasSlot slot ∧ argument? command = some (retryName slot.toString) ∧
        (execute .getvar command t).2 = { t with transfer := t.transfer.countRetry slot } := by
  rw [execute, Target.attempt]
  cases hrun : getvar command t with
  | error fault => exact .inl rfl
  | ok result =>
    simp only [getvar, bind_eq_ok_iff] at hrun
    obtain ⟨name, hargument, value, -, -, -, hresult⟩ := hrun
    cases hresult
    have hasks : argument? command = some name := require_eq_ok_iff.mp hargument
    dsimp only
    unfold Variable.afterRead
    split
    · rename_i param hvariable
      split
      · rename_i slot hknown
        obtain ⟨hslot, rfl⟩ := knownSlot_eq_ok_iff.mp hknown
        rw [eq_retryName_of_ofName hvariable] at hasks
        exact .inr ⟨slot, hslot, hasks, rfl⟩
      · exact .inl rfl
    · exact .inl rfl

/-! ### Counting down -/

theorem get?_countRetry_of_ne {s : Transfer} {other : Char} (hne : other ≠ slot) :
    (s.countRetry slot).retryCounts.get? other = s.retryCounts.get? other := by
  rw [Transfer.countRetry, Table.get?_insert, if_neg hne]

theorem toNat_retryCount_countRetry (s : Transfer) (slot other : Char) :
    ((s.countRetry slot).retryCount other).toNat =
      (s.retryCount other).toNat - if other = slot then 1 else 0 := by
  by_cases hother : other = slot
  · subst hother
    rw [if_pos rfl, Transfer.countRetry, Transfer.retryCount, Table.get?_insert, if_pos rfl,
      Option.getD_some]
    split_ifs with hzero
    · rw [hzero]
      rfl
    · have hpos : (s.retryCount other).toNat ≠ 0 := fun h => hzero (UInt32.toNat_inj.mp h)
      have hle : 1 ≤ s.retryCount other :=
        UInt32.le_iff_toNat_le.mpr (Nat.one_le_iff_ne_zero.mpr hpos)
      exact UInt32.toNat_sub_of_le _ 1 hle
  · rw [if_neg hother, Transfer.retryCount, get?_countRetry_of_ne hother]
    rfl

/-- The board has the slots that it had, and each of them its retries. -/
structure Unspent (t t' : Target) : Prop where
  retryCounts_eq : t'.transfer.retryCounts = t.transfer.retryCounts
  suffixes_eq : t'.board.slots.map (·.suffixes) = t.board.slots.map (·.suffixes)

theorem unspent_attempt {run : Target → Except Fault (Reply × Target)}
    (hok : ∀ {reply t'}, run t = .ok (reply, t') → Unspent t t') : Unspent t (t.attempt run).2 := by
  rw [Target.attempt]
  cases hrun : run t with
  | error fault => exact ⟨rfl, rfl⟩
  | ok result => exact hok hrun

theorem unspent_download (command : String) (t : Target) : Unspent t (download command t).2 := by
  unfold download
  dsimp only
  split
  · exact ⟨rfl, rfl⟩
  · split
    · constructor
      · rw [Target.transfer_transition]
        rfl
      · rw [Target.board_transition]
        rfl
    · exact ⟨rfl, rfl⟩

theorem unspent_upload {reply : Reply} {t' : Target} (h : upload t = .ok (reply, t')) :
    Unspent t t' := by
  unfold upload at h
  dsimp only at h
  split at h
  · cases h
  · cases h
    constructor
    · rw [Target.transfer_transition]
    · rw [Target.board_transition]

/-- Another slot may become the active one, but the slots are the same. -/
theorem unspent_setActive {reply : Reply} {t' : Target}
    (h : setActive command t = .ok (reply, t')) : Unspent t t' := by
  simp only [setActive, bind_eq_ok_iff, require_eq_ok_iff, byBoard_eq_ok_iff] at h
  obtain ⟨-, -, slots, hslots, slot, -, slots', hactive, h⟩ := h
  cases h
  rw [Slots.setActive] at hactive
  split_ifs at hactive
  cases hactive
  exact ⟨rfl, by rw [hslots]; rfl⟩

theorem VendorRequest.Deed.slots_eq {request : VendorRequest} (h : request.Deed t b) :
    b.slots = t.board.slots := by
  cases h <;> rfl

theorem unspent_oem {reply : Reply} {t' : Target} (h : oem command t = .ok (reply, t')) :
    Unspent t t' := by
  obtain ⟨-, request, -, hrun⟩ := oem_eq_ok h
  constructor
  · by_cases hca : request = .getCaRequest
    · subst hca
      obtain ⟨-, -, -, -, -, rfl⟩ := getCaRequest_eq_ok hrun
      rfl
    · obtain ⟨-, -, rfl⟩ := run_eq_ok hca hrun
      rfl
  · rw [(deed_run hrun).slots_eq]

/-- **Only `getvar` has to do with retries.** -/
theorem unspent_execute {verb : Verb} (hverb : verb ≠ .getvar) (command : String) (t : Target) :
    Unspent t (execute verb command t).2 := by
  unfold execute
  cases verb with
  | getvar => exact absurd rfl hverb
  | boot | continueBoot => exact ⟨rfl, rfl⟩
  | download => exact unspent_download command t
  | upload => exact unspent_attempt unspent_upload
  | setActive => exact unspent_attempt unspent_setActive
  | oem => exact unspent_attempt unspent_oem
  | reboot =>
    refine unspent_attempt fun h => ?_
    obtain ⟨-, -, -, rfl⟩ := reboot_eq_ok h
    exact ⟨rfl, rfl⟩
  | flashing =>
    refine unspent_attempt fun h => ?_
    obtain ⟨-, -, -, -, -, -, -, rfl⟩ := flashing_eq_ok h
    exact ⟨rfl, rfl⟩
  | flash =>
    refine unspent_attempt fun h => ?_
    obtain ⟨-, -, -, -, -, -, -, -, -, -, rfl⟩ := flash_eq_ok h
    exact ⟨rfl, rfl⟩
  | erase =>
    refine unspent_attempt fun h => ?_
    obtain ⟨-, -, -, -, -, -, -, rfl⟩ := erase_eq_ok h
    exact ⟨rfl, rfl⟩

/-! ### Sequences of commands -/

/-- A command for the handler of a verb. -/
structure Order where
  verb : Verb
  command : String

/-- The order asks for the variable of that name. -/
def Order.Asks (o : Order) (name : String) : Prop :=
  o.verb = .getvar ∧ argument? o.command = some name

instance (o : Order) (name : String) : Decidable (o.Asks name) :=
  inferInstanceAs (Decidable (_ ∧ _))

theorem ofCommand?_eq_getvar_iff :
    Verb.ofCommand? command = some .getvar ↔ ∃ name, command = "getvar:" ++ name := by
  constructor
  · intro hverb
    obtain ⟨e, hfind, he⟩ := Option.map_eq_some_iff.mp hverb
    have htable : ∀ e ∈ Verb.table, e.2 = .getvar → e.1 = "getvar:" := by decide
    have hlit := htable e (List.mem_of_find?_eq_some hfind) he
    have hstarts : (after? e.1 command).isSome = true :=
      List.find?_some (p := fun e : String × Verb => (after? e.1 command).isSome) hfind
    obtain ⟨name, hname⟩ := Option.isSome_iff_exists.mp hstarts
    exact ⟨name, hlit ▸ after?_eq_some_iff.mp hname⟩
  · rintro ⟨name, rfl⟩
    simp [Verb.ofCommand?, leading?, Verb.table, isSome_after?, List.isPrefixOf_cons_cons]

/-- By its text, a command asks for the variable that it spells. -/
theorem asks_iff_of_getvar (hname : name ≠ "") :
    Verb.ofCommand? command = some .getvar ∧ Order.Asks ⟨.getvar, command⟩ name ↔
      command = "getvar:" ++ name := by
  have hargument (rest : String) :
      argument? ("getvar:" ++ rest) = (some rest).filter (· != "") := by
    have hcommand : "getvar:" ++ rest = "getvar" ++ (String.singleton ':' ++ rest) := by
      rw [← String.append_assoc]
      rfl
    have hcut : splitArgument ("getvar:" ++ rest) = ("getvar", some rest) := by
      rw [hcommand]
      exact cut_append (by decide) rest
    rw [argument?, hcut]
  constructor
  · rintro ⟨hverb, -, hasks⟩
    obtain ⟨rest, rfl⟩ := ofCommand?_eq_getvar_iff.mp hverb
    rw [hargument] at hasks
    rw [Option.some.inj (Option.filter_eq_some_iff.mp hasks).1]
  · rintro rfl
    refine ⟨ofCommand?_eq_getvar_iff.mpr ⟨name, rfl⟩, rfl, ?_⟩
    rw [hargument, Option.filter_some, if_pos (by simpa using hname)]

/-- What comes of the order, and the target afterwards. -/
def Order.run (o : Order) (t : Target) : Except Fault Reply × Target :=
  execute o.verb o.command t

/-- What comes of the orders that ask for the variable of that name, when all are carried out. -/
def answersTo (name : String) : Target → List Order → List (Except Fault Reply)
  | _, [] => []
  | t, o :: orders =>
    if o.Asks name then (o.run t).1 :: answersTo name (o.run t).2 orders
    else answersTo name (o.run t).2 orders

/-- The answer to a host that asks for the count of a slot. -/
def told (retries : Nat) : Except Fault Reply :=
  .ok { response := .okay (toString retries) }

theorem Order.Asks.run_eq {o : Order} (hasks : o.Asks (retryName slot.toString))
    (hslot : t.board.HasSlot slot) : o.run t = (told (t.transfer.retryCount slot).toNat,
      { t with transfer := t.transfer.countRetry slot }) := by
  rw [Order.run, hasks.1, execute, Target.attempt, getvar_of_hasSlot hasks.2 hslot]
  rfl

/-- The slots of a board are there to stay. -/
theorem Order.hasSlot_run_iff (o : Order) (t : Target) (slot : Char) :
    (o.run t).2.board.HasSlot slot ↔ t.board.HasSlot slot := by
  by_cases hverb : o.verb = .getvar
  · rw [Order.run, hverb]
    rcases execute_getvar_cases o.command t with hsame | ⟨other, -, -, hother⟩
    · rw [hsame]
    · rw [hother]
  · have hsuffixes := (unspent_execute hverb o.command t).suffixes_eq
    have hasSlot_iff (b : Board) : b.HasSlot slot ↔
        ∃ suffixes, b.slots.map (·.suffixes) = some suffixes ∧ slot ∈ suffixes := by
      simp [Board.HasSlot]
    rw [hasSlot_iff, hasSlot_iff, Order.run, hsuffixes]

/-- An order uses up a retry of the slot that it asks for, and of no other. -/
theorem Order.retryCount_run (o : Order) (hslot : t.board.HasSlot slot) :
    ((o.run t).2.transfer.retryCount slot).toNat =
      (t.transfer.retryCount slot).toNat - if o.Asks (retryName slot.toString) then 1 else 0 := by
  by_cases hasks : o.Asks (retryName slot.toString)
  · rw [hasks.run_eq hslot, if_pos hasks, toNat_retryCount_countRetry, if_pos rfl]
  · rw [if_neg hasks, Nat.sub_zero]
    by_cases hverb : o.verb = .getvar
    · rw [Order.run, hverb]
      rcases execute_getvar_cases o.command t with hsame | ⟨other, -, hname, hother⟩
      · rw [hsame]
      · have hne : slot ≠ other := by
          rintro rfl
          exact hasks ⟨hverb, hname⟩
        rw [hother, toNat_retryCount_countRetry, if_neg hne, Nat.sub_zero]
    · have hcounts := (unspent_execute hverb o.command t).retryCounts_eq
      rw [Order.run, Transfer.retryCount, hcounts]
      rfl

/-- **A slot counts down by the orders that ask for it**, wherever they stand among others. -/
theorem answersTo_of_hasSlot (hslot : t.board.HasSlot slot) (orders : List Order) :
    answersTo (retryName slot.toString) t orders =
      (List.range (orders.countP (·.Asks (retryName slot.toString)))).map fun i =>
        told ((t.transfer.retryCount slot).toNat - i) := by
  induction orders generalizing t with
  | nil => rfl
  | cons o orders ih =>
    have hrest := ih ((o.hasSlot_run_iff t slot).mpr hslot)
    have hcount := o.retryCount_run hslot
    rw [answersTo, hrest, hcount]
    by_cases hasks : o.Asks (retryName slot.toString)
    · -- the answers behind the first are those of a slot with one retry less
      have hfirst : (o.run t).1 = told (t.transfer.retryCount slot).toNat := by
        rw [hasks.run_eq hslot]
      rw [if_pos hasks, if_pos hasks, List.countP_cons_of_pos (by simpa using hasks),
        List.range_succ_eq_map, List.map_cons, List.map_map, hfirst]
      refine congrArg _ (List.map_congr_left fun i _ => ?_)
      rw [Function.comp_apply, Nat.sub_sub, Nat.succ_eq_one_add]
    · rw [if_neg hasks, if_neg hasks, List.countP_cons_of_neg (by simpa using hasks), Nat.sub_zero]

/-- **Retries count down, and nothing else does.** Whatever a board has for slots and whatever counts there
are at first, let any commands be carried out in any order. The host that asks for the count of a slot is told
one less each time, down to zero, whatever is done in between. One that asks for the count of a slot that the
board does not have is refused, and nothing has changed. Nor does any variable that is read change anything,
but for the count of the slot that was asked for. For a command that is given by its text, to ask for a count
is to spell its name. -/
theorem retryCount_orders (t : Target) (orders : List Order) :
    (∀ slot, t.board.HasSlot slot → answersTo (retryName slot.toString) t orders =
      (List.range (orders.countP (·.Asks (retryName slot.toString)))).map fun i =>
        told ((t.transfer.retryCount slot).toNat - i)) ∧
      (∀ (o : Order) name, o.Asks name →
        (name = "slot-retry-count" ∨ ∃ slot, name = retryName slot) →
        (∀ slot, t.board.HasSlot slot → name ≠ retryName slot.toString) →
        ∃ fault, o.run t = (.error fault, t)) ∧
      (∀ command, ∃ retryCounts, (execute .getvar command t).2 =
          { t with transfer := { t.transfer with retryCounts } } ∧
        ∀ slot, ¬ (t.board.HasSlot slot ∧ Order.Asks ⟨.getvar, command⟩ (retryName slot.toString)) →
          retryCounts.get? slot = t.transfer.retryCounts.get? slot) ∧
      ∀ command name, name ≠ "" →
        (Verb.ofCommand? command = some .getvar ∧ Order.Asks ⟨.getvar, command⟩ name ↔
          command = "getvar:" ++ name) := by
  refine ⟨fun slot hslot => answersTo_of_hasSlot hslot orders, ?_, fun command => ?_,
    fun command name hname => asks_iff_of_getvar hname⟩
  · rintro ⟨verb, command⟩ name ⟨rfl, hasks⟩ hname hunknown
    obtain ⟨fault, hfault⟩ := getvar_of_unknown hasks hname hunknown
    exact ⟨fault, by rw [Order.run, execute, Target.attempt, hfault]⟩
  · rcases execute_getvar_cases command t with hsame | ⟨slot, hslot, hname, hafter⟩
    · exact ⟨t.transfer.retryCounts, hsame, fun _ _ => rfl⟩
    · refine ⟨(t.transfer.countRetry slot).retryCounts, hafter, fun other hother => ?_⟩
      refine get?_countRetry_of_ne fun hsame => hother ?_
      rw [hsame]
      exact ⟨hslot, rfl, hname⟩

/-- A board with two slots, where one has two retries. -/
def retried : Target where
  board := { slots := some {} }
  staging := .empty 64
  transfer := { retryCounts := Table.empty.insert 'b' 2 }

/-- Questions for both slots, and others. -/
def retryOrders : List Order :=
  [⟨.getvar, "getvar:slot-retry-count:b"⟩, ⟨.setActive, "set_active:b"⟩,
    ⟨.getvar, "getvar:slot-retry-count:a"⟩, ⟨.download, "download:00000008"⟩,
    ⟨.getvar, "getvar:slot-retry-count:b"⟩, ⟨.getvar, "getvar:slot-retry-count:c"⟩,
    ⟨.getvar, "getvar:slot-retry-count:b"⟩, ⟨.getvar, "getvar:slot-retry-count:b"⟩]

/-- One slot counts down to zero between the questions for the other, and the third there is not. -/
theorem retryCount_orders_retried :
    answersTo (retryName "b") retried retryOrders = [told 2, told 1, told 0, told 0] ∧
      answersTo (retryName "a") retried retryOrders = [told 0] ∧
      ∃ fault, Order.run ⟨.getvar, "getvar:slot-retry-count:c"⟩ retried =
        (.error fault, retried) := by
  obtain ⟨hcounts, hunknown, -, -⟩ := retryCount_orders retried retryOrders
  have hslots (slot : Char) : retried.board.HasSlot slot ↔ slot = 'a' ∨ slot = 'b' := by
    simp [Board.HasSlot, retried]
  have hb := hcounts 'b' ((hslots 'b').mpr (.inr rfl))
  have ha := hcounts 'a' ((hslots 'a').mpr (.inl rfl))
  have hother (slot : Char) (hslot : retried.board.HasSlot slot) : "c" ≠ slot.toString := by
    rcases (hslots slot).mp hslot with rfl | rfl
    · decide
    · decide
  have hc := hunknown ⟨.getvar, "getvar:slot-retry-count:c"⟩ (retryName "c") (by decide +kernel)
    (.inr ⟨"c", rfl⟩) fun slot hslot hsame => hother slot hslot (retryName_inj hsame)
  exact ⟨hb, ha, hc⟩

end Command

end Fastboot
