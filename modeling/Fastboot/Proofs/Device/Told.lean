import Fastboot.Proofs.Device.Link

/-!
# What an observer is told

Of all events two kinds can be held against what a device does: the changes of mode, and the status frames
that were queued. `t.Tells texts t'` says that the log of `t'` goes on from that of `t` with a chain of changes
from the mode of `t` to the mode of `t'`, and with the status frames `texts`.

Commands, incoming transfers and completions tell of every change of mode they make, and of no status frame
(`Outcome.tells`, `Reception.tells`, `Progression.tells`). A status frame is told of where it is handed over, if
the controller takes it (`tells_hand`). The one change that nobody is told of is made by a session that starts
or ends in a data phase (`CutsOff`). For all other actions `Sound.tells_act` puts the parts together.
-/

namespace Fastboot

/-- The change of mode that an event tells of. -/
def Event.change? : Event → Option (Mode × Mode)
  | mode old new => some (old, new)
  | _ => none

/-- The status frame that an event tells of. -/
def Event.answer? : Event → Option String
  | response text => some text
  | _ => none

/-- Changes that lead from one mode to another: each starts where the one before it has ended, and ends
elsewhere. -/
inductive Mode.Chain : Mode → List (Mode × Mode) → Mode → Prop where
  | nil (m : Mode) : Chain m [] m
  | cons {m m' m'' : Mode} {changes : List (Mode × Mode)} (hne : m ≠ m')
      (h : Chain m' changes m'') : Chain m ((m, m') :: changes) m''

namespace Mode.Chain

variable {m m' m'' : Mode} {changes changes' : List (Mode × Mode)}

theorem append (h : Chain m changes m') (h' : Chain m' changes' m'') :
    Chain m (changes ++ changes') m'' := by
  induction h with
  | nil => exact h'
  | cons hne _ ih => exact .cons hne (ih h')

theorem exists_of_append (h : Chain m (changes ++ changes') m'') :
    ∃ m', Chain m changes m' ∧ Chain m' changes' m'' := by
  induction changes generalizing m with
  | nil => exact ⟨m, .nil m, h⟩
  | cons change changes ih =>
    cases h with
    | cons hne h =>
      obtain ⟨m', hfirst, hrest⟩ := ih h
      exact ⟨m', .cons hne hfirst, hrest⟩

/-- A chain starts where its first change does. -/
theorem start_eq {change : Mode × Mode} (h : Chain m (change :: changes) m') : m = change.1 := by
  cases h
  rfl

/-- A chain leads to where its last change ends, or nowhere if it is empty. -/
theorem eq_getLast? (h : Chain m changes m') : m' = (changes.getLast?.map Prod.snd).getD m := by
  induction h with
  | nil => rfl
  | @cons m m' m'' changes _ _ ih =>
    rw [ih]
    cases changes with
    | nil => rfl
    | cons change rest => simp [List.getLast?_cons]

/-- A chain has one end. -/
theorem end_eq (h : Chain m changes m') (h' : Chain m changes m'') : m' = m'' :=
  h.eq_getLast?.trans h'.eq_getLast?.symm

end Mode.Chain

namespace Target

/-- The changes of mode that the log tells of, the first one first. -/
def changes (t : Target) : List (Mode × Mode) :=
  t.events.toList.filterMap Event.change?

/-- The status frames that the log tells of, the first one first. -/
def answers (t : Target) : List String :=
  t.events.toList.filterMap Event.answer?

/-- What the log tells of the way from one target to another: each change of mode, and the given status
frames. -/
structure Tells (t : Target) (texts : List String) (t' : Target) : Prop where
  exists_changes : ∃ told, t'.changes = t.changes ++ told ∧
    t.transfer.mode.Chain told t'.transfer.mode
  answers_eq : t'.answers = t.answers ++ texts

variable {t t' t'' : Target} {texts texts' : List String}

theorem changes_emit (t : Target) (e : Event) :
    (t.emit e).changes = t.changes ++ e.change?.toList := by
  rw [changes, toList_events_emit, List.filterMap_append]
  cases h : e.change? <;> simp [changes, h]

theorem answers_emit (t : Target) (e : Event) :
    (t.emit e).answers = t.answers ++ e.answer?.toList := by
  rw [answers, toList_events_emit, List.filterMap_append]
  cases h : e.answer? <;> simp [answers, h]

theorem Tells.trans (h : t.Tells texts t') (h' : t'.Tells texts' t'') :
    t.Tells (texts ++ texts') t'' := by
  obtain ⟨told, htold, hchain⟩ := h.exists_changes
  obtain ⟨told', htold', hchain'⟩ := h'.exists_changes
  refine ⟨⟨told ++ told', ?_, hchain.append hchain'⟩, ?_⟩
  · rw [htold', htold, List.append_assoc]
  · rw [h'.answers_eq, h.answers_eq, List.append_assoc]

/-- Where nothing is logged and the mode stays, there is nothing to tell. -/
theorem tells_of_eq (hevents : t'.events = t.events)
    (hmode : t'.transfer.mode = t.transfer.mode) : t.Tells [] t' := by
  refine ⟨⟨[], ?_, ?_⟩, ?_⟩
  · rw [changes, hevents, List.append_nil]
    rfl
  · rw [hmode]
    exact .nil t.transfer.mode
  · rw [answers, hevents, List.append_nil]
    rfl

/-- Nothing but the log and the mode has a part in it. -/
theorem Tells.congr (h : t.Tells texts t') (hevents : t''.events = t'.events)
    (hmode : t''.transfer.mode = t'.transfer.mode) : t.Tells texts t'' := by
  have h' := h.trans (tells_of_eq hevents hmode)
  rwa [List.append_nil] at h'

/-- Most events have to do with neither. -/
theorem tells_emit (t : Target) {e : Event} (hchange : e.change? = none)
    (hanswer : e.answer? = none) : t.Tells [] (t.emit e) := by
  refine ⟨⟨[], ?_, .nil t.transfer.mode⟩, ?_⟩
  · rw [changes_emit, hchange]
    rfl
  · rw [answers_emit, hanswer]
    rfl

/-- **A transition is told of.** -/
theorem tells_transition (t : Target) (change : Transfer → Transfer) :
    t.Tells [] (t.transition change) := by
  rw [transition, reportMode]
  split_ifs with hsame
  · exact tells_of_eq rfl hsame.symm
  · refine ⟨⟨[(t.transfer.mode, (change t.transfer).mode)], ?_, .cons hsame (.nil _)⟩, ?_⟩
    · rw [changes_emit]
      rfl
    · rw [answers_emit]
      rfl

theorem tells_progress (t : Target) (direction : Direction) (old new total : UInt32) :
    t.Tells [] (t.progress direction old new total) := by
  have hprogress : t.Tells [] (t.emit (.progress direction new.toNat total.toNat)) :=
    t.tells_emit rfl rfl
  rw [progress]
  rcases progressMark? old.toNat new.toNat with _ | lineBreak
  · exact hprogress
  · exact hprogress.trans (tells_emit _ rfl rfl)

end Target

/-- **What commands tell.** A command that changes the mode tells so. -/
theorem Command.Outcome.tells {command : String} {t t' : Target} {reply : Reply}
    (h : Outcome command t reply t') : t.Tells [] t' := by
  cases h with
  | answer => exact Target.tells_of_eq rfl rfl
  | exit => exact Target.tells_of_eq rfl rfl
  | refuse => exact Target.tells_of_eq rfl rfl
  | request => exact Target.tells_of_eq rfl rfl
  | upload => exact t.tells_transition _
  | download =>
    have hdrop : t.Tells [] (dropData t) := Target.tells_of_eq rfl rfl
    exact hdrop.trans ((dropData t).tells_transition _)

namespace Device

variable {d d' : Device} {status : TransferStatus} {data : ByteArray} {actual : Nat}
  {offer : Option Offer} {o : Offer}

/-! ### The parts of a completion -/

theorem tells_endUpload (d : Device) : d.toTarget.Tells [] d.endUpload.toTarget := by
  rw [endUpload]
  split_ifs
  · exact d.toTarget.tells_transition _
  · exact Target.tells_of_eq rfl rfl

theorem tells_countDownload (d : Device) (count : Nat) :
    d.toTarget.Tells [] (d.countDownload count).toTarget := by
  have hstored : d.toTarget.Tells [] { d.toTarget with transfer := d.transfer.stored count } :=
    Target.tells_of_eq rfl rfl
  exact hstored.trans (Target.tells_progress _ _ _ _ _)

theorem tells_countUpload (d : Device) (actual : Nat) :
    d.toTarget.Tells [] (d.countUpload actual).toTarget := by
  have hfetched : d.toTarget.Tells [] { d.toTarget with transfer := d.transfer.fetched actual } :=
    Target.tells_of_eq rfl (Transfer.mode_fetched _ _)
  rw [Transfer.fetched] at hfetched
  rw [countUpload]
  split_ifs at hfetched ⊢
  · exact hfetched.trans (Target.tells_progress _ _ _ _ _)
  · exact hfetched

/-- **What a transfer tells**, up to the frame that answers it. -/
theorem Reception.tells (hr : Reception d data status d' offer) :
    d.toTarget.Tells [] d'.toTarget := by
  cases hr with
  | lost => exact Target.tells_of_eq rfl rfl
  | refused fault inbound events _ _ _ hevents =>
    exact d.tells_endUpload.congr hevents (by rw [d.endUpload_eq])
  | command text reply target events _ _ _ hrun hevents =>
    have hcommand := d.tells_endUpload.trans
      (d.endUpload.toTarget.tells_emit (e := .command text) rfl rfl)
    have hstart : d.toTarget.Tells []
        { d.toTarget with transfer := d.transfer.interrupted, events } :=
      hcommand.congr hevents (by rw [d.endUpload_eq]; rfl)
    have houtcome := Command.outcome_dispatch text
      { d.toTarget with transfer := d.transfer.interrupted, events }
    rw [hrun] at houtcome
    exact hstart.trans houtcome.tells
  | broken code events _ hevents =>
    exact (d.toTarget.tells_transition .abortDownload).congr hevents (by
      rw [Target.transfer_transition])
  | partly staging events _ _ _ hevents =>
    have hstaged : d.toTarget.Tells [] { d.toTarget with staging } := Target.tells_of_eq rfl rfl
    have hcounted := hstaged.trans (tells_countDownload { d with staging } data.size)
    exact hcounted.congr hevents (by rw [countDownload_eq])
  | last count staging events _ _ _ _ hevents =>
    have hstaged : d.toTarget.Tells [] { d.toTarget with staging } := Target.tells_of_eq rfl rfl
    have hcounted := hstaged.trans (tells_countDownload { d with staging } count)
    have hfinished := hcounted.trans (Target.tells_emit _
      (e := .finished .download d.transfer.downloadSize.toNat) rfl rfl)
    exact (hfinished.trans (Target.tells_transition _ .finishDownload)).congr hevents (by
      rw [Target.transfer_transition, Target.transfer_emit, countDownload_eq])

/-- **What a completion tells**, up to the frame that follows. -/
theorem Progression.tells (hp : Progression d actual status d' offer) :
    d.toTarget.Tells [] d'.toTarget := by
  have hsettle : d.toTarget.Tells [] d.settle.toTarget := Target.tells_of_eq rfl rfl
  cases hp with
  | stop => exact hsettle
  | broken code events _ hevents =>
    exact (hsettle.trans (d.settle.toTarget.tells_transition .finishUpload)).congr hevents (by
      rw [Target.transfer_transition, settle])
  | chunk chunk events _ _ _ hevents =>
    exact (hsettle.trans (d.settle.tells_countUpload actual)).congr hevents (by
      rw [countUpload_eq, settle, Transfer.fetched_settled])
  | last events _ _ hevents =>
    have hfinished := (hsettle.trans (d.settle.tells_countUpload actual)).trans (Target.tells_emit _
      (e := .finished .upload (d.transfer.fetched actual).uploadBytes.toNat) rfl rfl)
    exact (hfinished.trans (Target.tells_transition _ .finishUpload)).congr hevents (by
      rw [Target.transfer_transition]
      rfl)
  | exit action =>
    exact (hsettle.trans (d.settle.toTarget.tells_emit (e := .exit action) rfl rfl)).congr rfl rfl

/-! ### Frames that are handed over -/

/-- The status frame that is told of when the frame is accepted. -/
def Offer.text? : Offer → Option String
  | reply r => some r.fitted.response.text
  | chunk _ => none

theorem tells_queueResponse (d : Device) (response : Response) (next : Continuation) (f : Frame) :
    d.toTarget.Tells (if (d.usb.replaceIn f.bytes).1 = .ok () then [response.text] else [])
      (d.queueResponse response next f).toTarget := by
  rw [queueResponse]
  rcases d.usb.replaceIn f.bytes with ⟨_ | ⟨⟩, usb⟩
  · exact Target.tells_of_eq rfl rfl
  · refine ⟨⟨[], ?_, .nil _⟩, ?_⟩
    · exact Target.changes_emit _ _
    · exact Target.answers_emit _ _

/-- **What handing over a frame tells**: of a status frame that is accepted, its text. -/
theorem tells_hand (d : Device) (o : Offer) : d.toTarget.Tells
    (if d.Accepts o then o.text?.toList else []) (d.hand (some o)).toTarget := by
  cases o with
  | reply r =>
    obtain ⟨f, htext, hsend⟩ := d.sendReply_eq r
    have hqueue := d.tells_queueResponse r.fitted.response r.fitted.next f
    rwa [← hsend, show f.bytes = Offer.frame (.reply r) from congrArg String.toUTF8 htext] at hqueue
  | chunk data =>
    rw [Offer.text?, Option.toList_none, ite_self, hand, queueChunk]
    rcases d.usb.replaceIn data with ⟨_ | ⟨⟩, usb⟩
    · have hready : d.toTarget.Tells []
          { d.toTarget with transfer := { d.transfer with startUpload := true, next := .done } } :=
        Target.tells_of_eq rfl rfl
      exact hready.trans (Target.tells_transition _ Transfer.finishUpload)
    · exact Target.tells_of_eq rfl rfl

/-! ### Actions -/

/-- The frame that the controller accepts from a call. -/
def accepted? (d : Device) : Action → Option Offer
  | .call c => (d.offer? c).filter fun o => d.Accepts o
  | .world _ _ => none

/-- A session starts or ends, and there is a data phase under way. -/
inductive CutsOff (d : Device) : Action → Prop where
  | enable (hlive : d.lifecycle ≠ .halted) (hmode : d.transfer.mode ≠ .idle) :
      CutsOff d (.call .enable)
  | disable (henabled : d.lifecycle = .enabled) (hmode : d.transfer.mode ≠ .idle) :
      CutsOff d (.call .disable)

/-- A session that starts in no data phase leaves nothing to tell. -/
theorem tells_enable (hidle : d.lifecycle ≠ .halted → d.transfer.mode = .idle) :
    d.toTarget.Tells [] (d.call .enable).toTarget := by
  rw [call, enable]
  split_ifs with hhalted
  · exact Target.tells_of_eq rfl rfl
  · exact Target.tells_of_eq rfl (hidle hhalted).symm

theorem tells_disable (hidle : d.lifecycle = .enabled → d.transfer.mode = .idle) :
    d.toTarget.Tells [] (d.call .disable).toTarget := by
  rw [call, disable]
  split_ifs with henabled
  · exact Target.tells_of_eq rfl (hidle henabled).symm
  · exact Target.tells_of_eq rfl rfl

/-- What leads to a frame is told of first. -/
theorem tells_handed (h : d.toTarget.Tells [] d'.toTarget) (husb : d'.usb = d.usb)
    (offer : Option Offer) :
    d.toTarget.Tells (((offer.filter fun o => d.Accepts o).bind Offer.text?).toList)
      (d'.hand offer).toTarget := by
  cases offer with
  | none => exact h
  | some o =>
    have hhand := h.trans (d'.tells_hand o)
    have hsame : d'.Accepts o ↔ d.Accepts o := by rw [Accepts, Accepts, husb]
    by_cases haccepts : d.Accepts o
    · simpa [Option.filter, haccepts, hsame] using hhand
    · simpa [Option.filter, haccepts, hsame] using hhand

/-- **What an action tells**: its changes of mode, and of a status frame that is accepted, its text. -/
theorem Sound.tells_act {a : Action} (h : d.Sound none) (ha : ¬ d.CutsOff a) :
    d.toTarget.Tells ((d.accepted? a).bind Offer.text?).toList (d.act a).toTarget := by
  cases a with
  | world => exact Target.tells_of_eq rfl rfl
  | call c =>
    cases c with
    | enable => exact tells_enable fun hlive => by_contra fun hmode => ha (.enable hlive hmode)
    | disable => exact tells_disable fun henabled => by_contra fun hmode => ha (.disable henabled hmode)
    | received status data =>
      rw [Device.act, toTarget_call, accepted?, offer?, take]
      split_ifs with henabled
      · have hr := reception_receive h henabled status data
        exact tells_handed hr.tells hr.usb_eq _
      · exact Target.tells_of_eq rfl rfl
    | sent status actual =>
      rw [Device.act, toTarget_call, accepted?, offer?, take]
      split_ifs with henabled
      · have hp := progression_proceed h status actual
        exact tells_handed hp.tells hp.usb_eq _
      · exact Target.tells_of_eq rfl rfl

/-- **What nobody is told**: the data phase that is cut off is over. -/
theorem CutsOff.act {a : Action} (ha : d.CutsOff a) : (d.act a).events = d.events ∧
    (d.act a).transfer.mode = .idle ∧ d.accepted? a = none := by
  cases ha with
  | enable hlive =>
    rw [Device.act, Device.call, Device.enable, if_neg hlive]
    exact ⟨rfl, rfl, rfl⟩
  | disable henabled =>
    rw [Device.act, Device.call, Device.disable, if_pos henabled]
    exact ⟨rfl, rfl, rfl⟩

end Device

end Fastboot
