import Fastboot.Proofs.Controller
import Fastboot.Proofs.Device.Run
import Fastboot.Proofs.Text.Utf8

/-!
# Devices on a bus

A device is `Ready` while its session goes on and the controller has not been made to fail. Its frames are
then queued, whatever controller it is (`Ready.handed`).

It is `Wired` when it is in a session, over a controller that works at once. Completions keep that,
whatever they report. When it is both it is `Live`: every request is armed too, with room for at least one
byte (`Sound.expected_pos`). A transfer that comes in leaves such a device `Answered`, and a command is
always carried out (`Live.answered_command`). What comes of collecting a frame is one of three things
(`Sound.collection`). A status frame that goes out ends what it was about (`completeFrames_of_done`).
-/

namespace Fastboot.Device

variable {d d' : Device} {settings : Settings} {offer : Option Offer} {o : Offer}
  {data : ByteArray} {actual : Nat} {status : TransferStatus}

/-! ### What completions leave alone -/

theorem Reception.usb_eq (hr : Reception d data status d' offer) : d'.usb = d.usb := by
  cases hr <;> rfl

theorem Reception.lifecycle_eq (hr : Reception d data status d' offer) :
    d'.lifecycle = d.lifecycle := by
  cases hr <;> rfl

theorem Progression.usb_eq (hp : Progression d actual status d' offer) : d'.usb = d.usb := by
  cases hp <;> rfl

/-- Only an action that was due ends a session. -/
theorem Progression.lifecycle_eq (hp : Progression d actual status d' offer) :
    d'.lifecycle = d.lifecycle ∨
      d'.lifecycle = .halted ∧ ∃ action, d.transfer.next = .exit action := by
  cases hp with
  | exit action hnext => exact .inr ⟨rfl, action, hnext⟩
  | _ => exact .inl rfl

/-- A frame that goes out neither starts nor ends a download. -/
theorem Progression.mode_iff (hp : Progression d actual status d' offer) (h : d.Sound none) :
    d'.transfer.mode = .downloading ↔ d.transfer.mode = .downloading := by
  cases hp with
  | stop => rfl
  | exit => rfl
  | broken code events hnext =>
    rw [h.mode_eq hnext]
    simp [Transfer.finishUpload]
  | chunk data events hnext =>
    show (d.transfer.fetched actual).mode = _ ↔ _
    rw [Transfer.mode_fetched]
  | last events hnext =>
    rw [h.mode_eq hnext]
    simp [Transfer.finishUpload]

@[simp]
theorem armed_hand (d : Device) (offer : Option Offer) :
    (d.hand offer).usb.armed = d.usb.armed := by
  cases offer with
  | none => rfl
  | some o => rw [usb_hand_some, Controller.armed_replaceIn]

/-! ### What a call makes of the controller -/

variable {c : Call}

/-- Behind its frame a call arms a request, and nothing more. -/
theorem usb_call (d : Device) (c : Call) : ∃ armed,
    (d.call c).usb = { ((d.take c).1.hand (d.take c).2).usb with armed } := by
  cases c with
  | enable => exact ⟨_, rfl⟩
  | disable => exact ⟨_, rfl⟩
  | received status data =>
    rw [call, onOutComplete, take]
    split_ifs
    · exact usb_arm _
    · exact ⟨_, rfl⟩
  | sent status actual =>
    rw [call, onInComplete, take]
    split_ifs
    · exact ⟨_, rfl⟩
    · exact ⟨_, rfl⟩

theorem usb_enable (d : Device) : ∃ armed, (d.call .enable).usb = { d.usb with armed } := by
  rw [call, enable]
  split_ifs
  · exact ⟨d.usb.armed, rfl⟩
  · exact usb_request _ _

theorem usb_disable (d : Device) :
    (d.call .disable).usb = d.usb ∨ (d.call .disable).usb = d.usb.cancelIn := by
  rw [call, disable]
  split_ifs
  · exact .inr rfl
  · exact .inl rfl

/-- Completions leave the controller to the frame that comes of them. -/
theorem Taking.usb_eq (ht : Taking d c d' offer) : c = .enable ∨ c = .disable ∨ d'.usb = d.usb := by
  cases ht with
  | restart _ _ _ _ _ hcall => exact hcall.imp_right .inl
  | ignored => exact .inr (.inr rfl)
  | received _ hr => exact .inr (.inr hr.usb_eq)
  | sent _ hp => exact .inr (.inr hp.usb_eq)

/-- The frame on offer takes the place of the one that was queued. -/
theorem Sound.usb_call_of_some (h : d.Sound none) (hoffer : d.offer? c = some o) :
    ∃ armed, (d.call c).usb = { (d.usb.replaceIn o.frame).2 with armed } := by
  obtain ⟨armed, hcall⟩ := d.usb_call c
  rcases (taking_take h c).usb_eq with rfl | rfl | husb
  · cases hoffer
  · cases hoffer
  · rw [show (d.take c).2 = some o from hoffer, usb_hand_some, husb] at hcall
    exact ⟨armed, hcall⟩

theorem Sound.pending_call_of_some (h : d.Sound none) (hoffer : d.offer? c = some o) :
    (d.call c).usb.pending = if d.usb.failNext then none else some o.frame := by
  obtain ⟨armed, hcall⟩ := h.usb_call_of_some hoffer
  rw [hcall, ← usb_hand_some]
  exact pending_hand_some d o

/-- **A call queues the frame that it offers and no other**, and not even that if a failure was due. -/
theorem Sound.queued_call (h : d.Sound none) (c : Call) : (d.call c).usb.queued =
    d.usb.queued + if (d.offer? c).isSome && !d.usb.failNext then 1 else 0 := by
  rcases (taking_take h c).usb_eq with rfl | rfl | husb
  · obtain ⟨armed, hcall⟩ := d.usb_enable
    rw [hcall]
    rfl
  · rcases d.usb_disable with hcall | hcall
    · rw [hcall]
      rfl
    · rw [hcall, Controller.queued_cancelIn]
      rfl
  · obtain ⟨armed, hcall⟩ := d.usb_call c
    rw [hcall, ← husb]
    exact queued_hand _ _

/-! ### Requests -/

/-- The length of the request that a device arms next. -/
def expected (d : Device) : Nat :=
  match d.transfer.mode with
  | .downloading => d.transfer.requestLength d.settings.bufferSize d.usb.maxPacket
  | .idle | .uploading => d.settings.bufferSize

/-- Outside a download, requests are for commands. -/
theorem expected_of_ne (hmode : d.transfer.mode ≠ .downloading) :
    d.expected = d.settings.bufferSize := by
  unfold expected
  split
  · exact absurd ‹_› hmode
  · rfl
  · rfl

theorem arm_of_enabled (henabled : d.lifecycle = .enabled) (hdirect : d.usb.Direct) :
    d.arm = { d with
      usb := { d.usb with armed := some d.expected }, requested := d.expected } := by
  unfold arm request
  rw [if_pos henabled]
  simp only [hdirect.queueOut_eq]
  rfl

/-- What is still to come is asked for, or a whole buffer. -/
theorem requestLength_pos {t : Transfer} {bufferSize : Nat} (hbuffer : 0 < bufferSize)
    (hremaining : 0 < t.downloadRemaining.toNat) (maxPacket : Nat) :
    0 < t.requestLength bufferSize maxPacket := by
  unfold Transfer.requestLength
  dsimp only
  split
  · exact hbuffer
  · split <;> omega

/-- There is room for at least one byte in every request. -/
theorem Sound.expected_pos (h : d.Sound offer) : 0 < d.expected := by
  by_cases hmode : d.transfer.mode = .downloading
  · have hlt := h.consistent.downloadBytes_lt hmode
    have hremaining := d.transfer.toNat_downloadRemaining
    simp only [expected, hmode]
    exact requestLength_pos h.valid.bufferSize_pos (by omega) _
  · rw [expected_of_ne hmode]
    exact h.valid.bufferSize_pos

/-! ### Ready devices -/

/-- A device that goes on, over a controller that takes its next frame, with a frame still to hand over or
none. -/
structure Ready (d : Device) (offer : Option Offer) : Prop where
  sound : d.Sound offer
  enabled : d.lifecycle = .enabled
  failNext : d.usb.failNext = false

/-- `e` is `d` with the frame on offer queued. -/
structure Handed (d : Device) (offer : Option Offer) (e : Device) : Prop where
  settings_eq : e.settings = d.settings
  staging_eq : e.staging = d.staging
  transfer_eq : e.transfer = (offer.map d.transfer.accepted).getD d.transfer
  pending_eq : e.usb.pending = (offer.map Offer.frame).or d.usb.pending
  queued_eq : e.usb.queued = d.usb.queued + if offer.isSome then 1 else 0

theorem Ready.of_reception (h : d.Ready none) (hr : Reception d data status d' offer) :
    d'.Ready offer where
  sound := h.sound.of_reception h.enabled hr
  enabled := hr.lifecycle_eq.trans h.enabled
  failNext := by
    rw [hr.usb_eq]
    exact h.failNext

/-- A device stays ready when a frame goes out that no action waits for. -/
theorem Ready.of_progression (h : d.Ready none) (hp : Progression d actual status d' offer)
    (hnext : ∀ action, d.transfer.next ≠ .exit action) : d'.Ready offer where
  sound := h.sound.of_progression h.enabled hp
  enabled := by
    rcases hp.lifecycle_eq with hsame | ⟨-, action, haction⟩
    · exact hsame.trans h.enabled
    · exact absurd haction (hnext action)
  failNext := by
    rw [hp.usb_eq]
    exact h.failNext

theorem Ready.transfer_hand (h : d.Ready (some o)) :
    (d.hand (some o)).transfer = d.transfer.accepted o := by
  rw [transfer_hand_some, if_pos (accepts_iff_failNext.mpr h.failNext)]

theorem Ready.pending_hand (h : d.Ready (some o)) :
    (d.hand (some o)).usb.pending = some o.frame := by
  rw [pending_hand_some, if_neg (by simp [h.failNext])]

theorem Ready.hand (h : d.Ready offer) : (d.hand offer).Ready none where
  sound := h.sound.hand
  enabled := (d.lifecycle_hand offer).trans h.enabled
  failNext := by
    cases offer with
    | none => exact h.failNext
    | some o => exact d.failNext_hand_some o

theorem Ready.arm (h : d.Ready none) : d.arm.Ready none where
  sound := by
    obtain ⟨_, _, harm⟩ := d.arm_eq
    rw [harm]
    exact { h.sound with }
  enabled := d.lifecycle_arm.trans h.enabled
  failNext := d.failNext_arm.trans h.failNext

/-- A ready device has its frame taken. -/
theorem Ready.handed (h : d.Ready offer) : d.Handed offer (d.hand offer) where
  settings_eq := d.settings_hand offer
  staging_eq := d.staging_hand offer
  transfer_eq := by
    cases offer with
    | none => rfl
    | some o => exact h.transfer_hand
  pending_eq := by
    cases offer with
    | none => rfl
    | some o => exact h.pending_hand
  queued_eq := by
    rw [queued_hand, h.failNext, Bool.not_false, Bool.and_true]

/-- The next request makes no difference to the frame. -/
theorem Handed.arm {e : Device} (h : d.Handed offer e) : d.Handed offer e.arm where
  settings_eq := by rw [toTarget_arm, h.settings_eq]
  staging_eq := by rw [toTarget_arm, h.staging_eq]
  transfer_eq := by rw [toTarget_arm, h.transfer_eq]
  pending_eq := e.pending_arm.trans h.pending_eq
  queued_eq := e.queued_arm.trans h.queued_eq

/-! ### Wired devices -/

/-- A device in a session, with a frame still to hand over or none. -/
structure Wired (d : Device) (settings : Settings) (offer : Option Offer) : Prop where
  sound : d.Sound offer
  settings_eq : d.settings = settings
  lifecycle_ne : d.lifecycle ≠ .bound
  direct : d.usb.Direct

theorem Wired.expected_eq (h : d.Wired settings offer) (hmode : d.transfer.mode ≠ .downloading) :
    d.expected = settings.bufferSize := by
  rw [expected_of_ne hmode, h.settings_eq]

theorem Wired.of_reception (h : d.Wired settings none) (henabled : d.lifecycle = .enabled)
    (hr : Reception d data status d' offer) : d'.Wired settings offer where
  sound := h.sound.of_reception henabled hr
  settings_eq := hr.settings_eq.trans h.settings_eq
  lifecycle_ne := by
    rw [hr.lifecycle_eq]
    exact h.lifecycle_ne
  direct := by
    rw [hr.usb_eq]
    exact h.direct

theorem Wired.of_progression (h : d.Wired settings none) (henabled : d.lifecycle = .enabled)
    (hp : Progression d actual status d' offer) : d'.Wired settings offer where
  sound := h.sound.of_progression henabled hp
  settings_eq := hp.settings_eq.trans h.settings_eq
  lifecycle_ne := by
    rcases hp.lifecycle_eq with hsame | ⟨hhalted, -⟩
    · rw [hsame]
      exact h.lifecycle_ne
    · rw [hhalted]
      nofun
  direct := by
    rw [hp.usb_eq]
    exact h.direct

theorem Wired.hand (h : d.Wired settings offer) : (d.hand offer).Wired settings none where
  sound := h.sound.hand
  settings_eq := (d.settings_hand offer).trans h.settings_eq
  lifecycle_ne := by
    rw [lifecycle_hand]
    exact h.lifecycle_ne
  direct := by
    cases offer with
    | none => exact h.direct
    | some o =>
      rw [usb_hand_some]
      exact h.direct.replaceIn _

/-- Another request makes no difference to a device. -/
theorem Wired.arm (h : d.Wired settings none) : d.arm.Wired settings none := by
  unfold Device.arm Device.request
  split
  · exact ⟨{ h.sound with }, h.settings_eq, h.lifecycle_ne, h.direct.queueOut _⟩
  · exact h

/-- Nor does a controller that is handled by others, or another board. -/
theorem Wired.world {usb : Controller} (h : d.Wired settings none) (husb : d.usb.Handled usb)
    (board : Board) : { d with usb, board }.Wired settings none :=
  ⟨{ h.sound with }, h.settings_eq, h.lifecycle_ne, husb.direct h.direct⟩

/-! ### Live devices -/

/-- A wired device that goes on, over a controller that takes its next frame. -/
structure Live (d : Device) (settings : Settings) (offer : Option Offer) : Prop extends
    Wired d settings offer, Ready d offer

theorem Live.of_reception (h : d.Live settings none) (hr : Reception d data status d' offer) :
    d'.Live settings offer :=
  { h.toWired.of_reception h.enabled hr, h.toReady.of_reception hr with }

/-- A device stays live when a frame goes out that no action waits for. -/
theorem Live.of_progression (h : d.Live settings none) (hp : Progression d actual status d' offer)
    (hnext : ∀ action, d.transfer.next ≠ .exit action) : d'.Live settings offer :=
  { h.toWired.of_progression h.enabled hp, h.toReady.of_progression hp hnext with }

theorem Live.hand (h : d.Live settings offer) : (d.hand offer).Live settings none :=
  { h.toWired.hand, h.toReady.hand with }

theorem Live.arm_eq (h : d.Live settings none) : d.arm = { d with
    usb := { d.usb with armed := some d.expected }, requested := d.expected } :=
  arm_of_enabled h.enabled h.direct

theorem Live.arm (h : d.Live settings none) : d.arm.Live settings none :=
  { h.toWired.arm, h.toReady.arm with }

/-- The host takes the request to fill it. -/
theorem Live.takeOut (h : d.Live settings none) :
    { d with usb := d.usb.takeOut.2 }.Live settings none where
  toWired := h.toWired.world .takeOut d.board
  enabled := h.enabled
  failNext := h.failNext

/-- The host collects the queued frame. -/
theorem Live.collect (h : d.Live settings none) :
    { d with usb := d.usb.completeIn.2 }.Live settings none where
  toWired := h.toWired.world .completeIn d.board
  enabled := h.enabled
  failNext := d.usb.failNext_completeIn.trans h.failNext

/-! ### Answers to transfers -/

/-- `e` is `d` with the frame on offer queued and the next request armed. -/
structure Answered (d : Device) (settings : Settings) (offer : Option Offer) (e : Device) : Prop
    extends Handed d offer e where
  live : e.Live settings none
  armed_eq : e.usb.armed = some e.expected

theorem Live.answered (h : d.Live settings offer) : d.Answered settings offer (d.hand offer).arm where
  toHanded := h.handed.arm
  live := h.hand.arm
  armed_eq := by
    rw [h.hand.arm_eq]
    rfl

theorem onOutComplete_of_enabled (henabled : d.lifecycle = .enabled) (status : TransferStatus)
    (data : ByteArray) : d.onOutComplete status data =
      ((d.receive status data).1.hand (d.receive status data).2).arm :=
  if_pos henabled

theorem onInComplete_of_enabled (henabled : d.lifecycle = .enabled) (status : TransferStatus)
    (actual : Nat) : d.onInComplete status actual =
      (d.proceed status actual).1.hand (d.proceed status actual).2 :=
  if_pos henabled

/-- Behind every transfer that comes in, the next request is armed. -/
theorem Wired.received (h : d.Wired settings none) (henabled : d.lifecycle = .enabled)
    (status : TransferStatus) (data : ByteArray) :
    (d.onOutComplete status data).Wired settings none ∧
      (d.onOutComplete status data).usb.armed = some (d.onOutComplete status data).expected := by
  have hr := reception_receive h.sound henabled status data
  have hhand := (h.of_reception henabled hr).hand
  have hlifecycle : ((d.receive status data).1.hand (d.receive status data).2).lifecycle =
      .enabled := by
    rw [lifecycle_hand, hr.lifecycle_eq, henabled]
  rw [onOutComplete_of_enabled henabled]
  refine ⟨hhand.arm, ?_⟩
  rw [arm_of_enabled hlifecycle hhand.direct]
  rfl

/-- A live device takes every transfer and answers it. -/
theorem Live.exists_answered (h : d.Live settings none) (status : TransferStatus)
    (data : ByteArray) : ∃ d' offer, Reception d data status d' offer ∧
      d'.Answered settings offer (d.onOutComplete status data) := by
  have hr := reception_receive h.sound h.enabled status data
  refine ⟨_, _, hr, ?_⟩
  rw [onOutComplete_of_enabled h.enabled]
  exact (h.of_reception hr).answered

/-- A transfer leaves a live device with the next request armed. -/
theorem Live.received (h : d.Live settings none) (status : TransferStatus) (data : ByteArray) :
    (d.onOutComplete status data).Live settings none ∧
      (d.onOutComplete status data).usb.armed = some (d.onOutComplete status data).expected := by
  obtain ⟨_, _, -, he⟩ := h.exists_answered status data
  exact ⟨he.live, he.armed_eq⟩

/-- A text without a zero arrives as it is. -/
theorem commandText?_toUTF8 {text : String} (hzero : '\x00' ∉ text.toList) :
    commandText? text.toUTF8 = some text := by
  unfold commandText?
  rw [Text.takeWhile_toUTF8 hzero]
  exact Text.fromUTF8?_toUTF8 text

/-- **A command is carried out and answered**, unless it finds a download under way. -/
theorem Live.answered_command {text : String} (h : d.Live settings none)
    (hmode : d.transfer.mode ≠ .downloading) (hzero : '\x00' ∉ text.toList)
    (hsize : text.utf8ByteSize < settings.bufferSize) : ∃ reply target events,
      Command.dispatch text { d.toTarget with transfer := d.transfer.interrupted, events } =
        (reply, target) ∧
      { d with toTarget := target, inbound := some (.empty settings.bufferSize) }.Answered settings
        (some (.reply reply)) (d.onOutComplete .completed text.toUTF8) := by
  obtain ⟨d', offer, hr, he⟩ := h.exists_answered .completed text.toUTF8
  have htext := commandText?_toUTF8 hzero
  -- it is text and the buffer takes it, so neither reason to refuse it applies
  cases hr with
  | refused fault inbound events _ _ hrefused =>
    rw [htext, h.settings_eq] at hrefused
    rcases hrefused with hlong | hnone
    · exact absurd hsize (Nat.not_lt_of_le hlong)
    · cases hnone
  | command text' reply target events _ _ htext' hrun =>
    cases Option.some.inj (htext.symm.trans htext')
    rw [h.settings_eq] at he
    exact ⟨reply, target, events, hrun, he⟩
  | partly _ _ hdownload => exact absurd hdownload hmode
  | last _ _ _ hdownload => exact absurd hdownload hmode

/-! ### Frames that are collected -/

theorem completeIn_of_none (hpending : d.usb.pending = none) : d.completeIn = (none, d) := by
  simp only [completeIn, Controller.completeIn, hpending]

theorem completeIn_of_some {frame : ByteArray} (hpending : d.usb.pending = some frame) :
    d.completeIn = (some frame,
      { d with usb := d.usb.completeIn.2 }.onInComplete .completed frame.size) := by
  have hcomplete : d.usb.completeIn = (some frame, d.usb.completeIn.2) := by
    simp only [Controller.completeIn, hpending]
  unfold completeIn
  rw [hcomplete]

/-- To collect a frame is to let the device go on. -/
theorem completeIn_of_pending {frame : ByteArray} (henabled : d.lifecycle = .enabled)
    (hpending : d.usb.pending = some frame) : d.completeIn = (some frame,
      let collected := { d with usb := d.usb.completeIn.2 }
      (collected.proceed .completed frame.size).1.hand
        (collected.proceed .completed frame.size).2) := by
  have hcollected : ({ d with usb := d.usb.completeIn.2 } : Device).lifecycle = .enabled :=
    henabled
  rw [completeIn_of_some hpending, onInComplete_of_enabled hcollected]

/-- A device whose frame is gone is as sound as it was. -/
theorem Sound.collect (h : d.Sound none) : { d with usb := d.usb.completeIn.2 }.Sound none :=
  { h with }

/-- What a host collects, and the device afterwards. -/
inductive Collection (d : Device) : Option ByteArray → Device → Prop where
  | nothing (hpending : d.usb.pending = none) : Collection d none d
  /-- A device that is not enabled takes no notice. -/
  | unnoticed {frame : ByteArray} (hpending : d.usb.pending = some frame)
      (hne : d.lifecycle ≠ .enabled) :
      Collection d (some frame) { d with usb := d.usb.completeIn.2 }
  | followed {frame : ByteArray} {d' e : Device} {offer : Option Offer}
      (hpending : d.usb.pending = some frame) (henabled : d.lifecycle = .enabled)
      (hp : Progression { d with usb := d.usb.completeIn.2 } frame.size .completed d' offer)
      (hhand : e = d'.hand offer) : Collection d (some frame) e

theorem Sound.collection {frame : Option ByteArray} {e : Device} (h : d.Sound none)
    (hcomplete : d.completeIn = (frame, e)) : d.Collection frame e := by
  cases hpending : d.usb.pending with
  | none =>
    cases hcomplete.symm.trans (completeIn_of_none hpending)
    exact .nothing hpending
  | some frame =>
    by_cases henabled : d.lifecycle = .enabled
    · cases hcomplete.symm.trans (completeIn_of_pending henabled hpending)
      exact .followed hpending henabled (progression_proceed h.collect .completed frame.size) rfl
    · rw [completeIn_of_some hpending, Device.onInComplete, if_neg henabled] at hcomplete
      cases hcomplete
      exact .unnoticed hpending henabled

/-! ### Status frames -/

/-- With no frame queued there is nothing to collect. -/
theorem completeFrames_of_none (hpending : d.usb.pending = none) (limit : Nat) :
    completeFrames limit d = ([], d) := by
  cases limit with
  | zero => rfl
  | succ limit => rw [completeFrames, completeIn_of_none hpending]

/-- One frame is collected after the other. -/
theorem completeFrames_succ {e : Device} {frame : ByteArray}
    (hcomplete : d.completeIn = (some frame, e)) (limit : Nat) : completeFrames (limit + 1) d =
      (frame :: (completeFrames limit e).1, (completeFrames limit e).2) := by
  rw [completeFrames, hcomplete]

/-- The device when its last frame has been collected. -/
def collected (d : Device) : Device :=
  { d.settle with usb := d.usb.completeIn.2 }

theorem Live.collected (h : d.Live settings none) (hnext : d.transfer.next = .done) :
    d.collected.Live settings none := by
  have hstop : Progression { d with usb := d.usb.completeIn.2 } 0 .completed d.collected none :=
    .stop .completed (.inl hnext)
  exact h.collect.of_progression hstop (by simp [hnext])

/-- The controller has no frame once the host has collected it. -/
@[simp]
theorem pending_collected (d : Device) : d.collected.usb.pending = none :=
  d.usb.pending_completeIn

@[simp]
theorem armed_collected (d : Device) : d.collected.usb.armed = d.usb.armed :=
  d.usb.armed_completeIn

/-- A status frame that nothing follows. -/
theorem completeIn_of_done {frame : ByteArray} (henabled : d.lifecycle = .enabled)
    (hnext : d.transfer.next = .done) (hpending : d.usb.pending = some frame) :
    d.completeIn = (some frame, d.collected) := by
  rw [completeIn_of_pending henabled hpending]
  simp only [proceed, hnext]
  rfl

/-- **A status frame is all that the host collects**, if nothing follows it. -/
theorem completeFrames_of_done {frame : ByteArray} (henabled : d.lifecycle = .enabled)
    (hnext : d.transfer.next = .done) (hpending : d.usb.pending = some frame) (limit : Nat) :
    completeFrames (limit + 1) d = ([frame], d.collected) := by
  rw [completeFrames_succ (completeIn_of_done henabled hnext hpending),
    completeFrames_of_none d.pending_collected]

end Fastboot.Device
