import Fastboot.Device
import Fastboot.Proofs.Controller

/-!
# Handing a frame to the controller

What `Device.hand` and `Device.arm` do to a device. A frame is accepted or refused, and either way it
is the bytes `Offer.frame` that the controller was asked to queue (`usb_hand_some`). What becomes of the
exchange is `Transfer.accepted` in the one case and `Transfer.dropped` in the other
(`transfer_hand_some`). Nothing else of the device depends on its controller: the settings, the board, the
staging buffer, the inbound buffer and the lifecycle are left alone.

A frame is accepted unless the controller has been made to fail (`accepts_iff_failNext`), and then it is
the one that is queued (`pending_hand_some`).
-/

namespace Fastboot

/-- What goes out for a reply: the reply, or a `FAIL` where its text does not fit a frame. -/
def Reply.fitted (r : Reply) : Reply :=
  match r.response.frame with
  | .ok _ => r
  | .error _ => .ofFault .responseTooLong

/-- What goes out always fits. -/
theorem Reply.exists_frame_fitted (r : Reply) :
    ∃ f : Frame, r.fitted.response.frame = .ok f ∧ f.text = r.fitted.response.text := by
  unfold Reply.fitted
  split
  · rename_i f hf
    exact ⟨f, hf, Response.frame_eq_ok_iff.mp hf⟩
  · refine ⟨⟨(Reply.ofFault .responseTooLong).response.text, by decide⟩, ?_, rfl⟩
    exact Response.frame_eq_ok_iff.mpr rfl

/-- A reply that fits goes out as it is. -/
theorem Reply.fitted_of_le {r : Reply} (h : r.response.text.utf8ByteSize ≤ Frame.capacity) :
    r.fitted = r := by
  unfold Reply.fitted
  rw [Response.frame_eq_ok_iff.mpr (rfl : (⟨r.response.text, h⟩ : Frame).text = _)]

@[simp]
theorem Reply.fitted_okay : Reply.okay.fitted = Reply.okay :=
  fitted_of_le (by decide)

@[simp]
theorem Reply.fitted_exit (action : Exit) : (Reply.exit action).fitted = Reply.exit action :=
  fitted_of_le (r := .exit action) (show "OKAY".utf8ByteSize ≤ Frame.capacity by decide)

/-- The replacement for a reply that does not fit leads to nothing. -/
theorem Reply.next_fitted (r : Reply) : r.fitted = r ∨ r.fitted.next = .done := by
  unfold Reply.fitted
  split
  · exact .inl rfl
  · exact .inr rfl

namespace Device

/-- The bytes that the controller is asked to queue. -/
def Offer.frame : Offer → ByteArray
  | reply r => r.fitted.response.text.toUTF8
  | chunk data => data

/-- What the completion of the frame leads to. -/
def Offer.next : Offer → Continuation
  | reply r => r.fitted.next
  | chunk _ => .uploadChunk

@[simp]
theorem Offer.next_okay : (Offer.reply .okay).next = .done := by
  rw [Offer.next, Reply.fitted_okay]
  rfl

@[simp]
theorem Offer.next_exit (action : Exit) : (Offer.reply (.exit action)).next = .exit action := by
  rw [Offer.next, Reply.fitted_exit]
  rfl

/-- A `FAIL` is followed by nothing, whether it fits or not. -/
@[simp]
theorem Offer.next_ofFault (fault : Fault) : (Offer.reply (.ofFault fault)).next = .done := by
  rcases (Reply.ofFault fault).next_fitted with h | h
  · rw [Offer.next, h]
    rfl
  · rw [Offer.next, h]

/-- What a reply leads to when it leads to something, it leads to by itself. -/
theorem Offer.next_of_reply {r : Reply} {next : Continuation} (h : (Offer.reply r).next = next)
    (hne : next ≠ .done) : r.next = next := by
  rcases r.next_fitted with hfits | hdone
  · rwa [Offer.next, hfits] at h
  · rw [Offer.next, hdone] at h
    exact absurd h.symm hne

@[simp]
theorem Offer.next_chunk (data : ByteArray) : (Offer.chunk data).next = .uploadChunk := rfl

/-- Whether the frame carries data of an upload. -/
def Offer.isChunk : Offer → Bool
  | reply _ => false
  | chunk _ => true

instance (offer : Option Offer) (reply : Reply) : Decidable (offer = some (.reply reply)) :=
  match offer with
  | none => isFalse nofun
  | some (.chunk _) => isFalse nofun
  | some (.reply r) => decidable_of_iff (r = reply) (by simp)

end Device

namespace Transfer

variable (t : Transfer) (o : Device.Offer)

/-- The exchange once a frame has been queued. -/
def accepted : Transfer :=
  { t with next := o.next, inFlight := true, startUpload := t.startUpload || o.isChunk }

/-- The exchange once a frame has been refused. An upload whose chunk is refused is over. -/
def dropped : Transfer :=
  if o.isChunk then { t with next := .done }.finishUpload else { t with next := .done }

@[simp]
theorem next_accepted : (t.accepted o).next = o.next := rfl

@[simp]
theorem mode_accepted : (t.accepted o).mode = t.mode := rfl

/-- A frame that is refused is followed by nothing. -/
@[simp]
theorem next_dropped : (t.dropped o).next = .done := by
  unfold dropped
  split <;> rfl

end Transfer

namespace Device

/-- The controller takes the frame. -/
def Accepts (d : Device) (o : Offer) : Prop :=
  (d.usb.replaceIn o.frame).1 = .ok ()

instance (d : Device) (o : Offer) : Decidable (d.Accepts o) :=
  inferInstanceAs (Decidable (_ = _))

variable (d : Device) (o : Offer)

/-! ### Replies and chunks -/

theorem sendReply_eq (r : Reply) : ∃ f : Frame, f.text = r.fitted.response.text ∧
    d.sendReply r = d.queueResponse r.fitted.response r.fitted.next f := by
  obtain ⟨f, hf, htext⟩ := r.exists_frame_fitted
  refine ⟨f, htext, ?_⟩
  unfold Reply.fitted at hf ⊢
  unfold sendReply
  cases h : r.response.frame with
  | ok g =>
    rw [h] at hf
    cases Except.ok.inj (h.symm.trans hf)
    rfl
  | error e =>
    rw [h] at hf
    have hfail : (Response.fail Fault.responseTooLong.message).frame = .ok f := hf
    simp only [hfail]
    rfl

/-- A change of the exchange is reported, and touches nothing else. -/
theorem transition_eq (change : Transfer → Transfer) : d.transition change =
    { d with transfer := change d.transfer, events := (d.transition change).events } := by
  unfold transition onTarget Target.transition
  by_cases h : d.transfer.mode = (change d.transfer).mode
  · simp [Target.reportMode, h]
  · simp [Target.reportMode, Target.emit, h]

variable {d o}

theorem accepts_iff : d.Accepts o ↔ ∃ usb, d.usb.replaceIn o.frame = (.ok (), usb) :=
  ⟨fun h => ⟨_, Prod.ext h rfl⟩, fun ⟨_, h⟩ => congrArg Prod.fst h⟩

theorem not_accepts_iff : ¬ d.Accepts o ↔ ∃ e usb, d.usb.replaceIn o.frame = (.error e, usb) := by
  unfold Accepts
  rcases d.usb.replaceIn o.frame with ⟨e | ⟨⟩, usb⟩ <;> simp

/-- A frame that is accepted. -/
theorem hand_of_accepts (h : d.Accepts o) : ∃ events, d.hand (some o) =
    { d with
      usb := (d.usb.replaceIn o.frame).2, transfer := d.transfer.accepted o, events } := by
  obtain ⟨usb, husb⟩ := accepts_iff.mp h
  cases o with
  | reply r =>
    obtain ⟨f, htext, hsend⟩ := d.sendReply_eq r
    have hbytes : f.bytes = Offer.frame (.reply r) := congrArg String.toUTF8 htext
    refine ⟨d.events.push (.response r.fitted.response.text), ?_⟩
    simp [hand, hsend, queueResponse, hbytes, husb, onTarget, Target.emit, Transfer.accepted,
      Offer.isChunk, Offer.next]
  | chunk data =>
    have hdata : d.usb.replaceIn data = (.ok (), usb) := husb
    refine ⟨d.events, ?_⟩
    simp [hand, queueChunk, husb, hdata, Transfer.accepted, Offer.isChunk, Offer.next]

/-- A frame that is refused. -/
theorem hand_of_not_accepts (h : ¬ d.Accepts o) : ∃ events, d.hand (some o) =
    { d with
      usb := (d.usb.replaceIn o.frame).2, transfer := d.transfer.dropped o, events } := by
  obtain ⟨e, usb, husb⟩ := not_accepts_iff.mp h
  cases o with
  | reply r =>
    obtain ⟨f, htext, hsend⟩ := d.sendReply_eq r
    have hbytes : f.bytes = Offer.frame (.reply r) := congrArg String.toUTF8 htext
    refine ⟨d.events, ?_⟩
    simp [hand, hsend, queueResponse, hbytes, husb, Transfer.dropped, Offer.isChunk]
  | chunk data =>
    have hdata : d.usb.replaceIn data = (.error e, usb) := husb
    have hfinish := transition_eq
      { d with usb, transfer := { d.transfer with startUpload := true, next := .done } }
      Transfer.finishUpload
    rw [hand, queueChunk, hdata, husb]
    exact ⟨_, hfinish⟩

/-- Handing over a frame asks the controller once, and its answer decides the exchange. -/
theorem hand_some (d : Device) (o : Offer) : ∃ events, d.hand (some o) =
    { d with
      usb := (d.usb.replaceIn o.frame).2
      transfer := if d.Accepts o then d.transfer.accepted o else d.transfer.dropped o
      events } := by
  split
  · exact hand_of_accepts ‹_›
  · exact hand_of_not_accepts ‹_›

/-! ### What is changed and what is not -/

theorem transfer_hand_some (d : Device) (o : Offer) : (d.hand (some o)).transfer =
    if d.Accepts o then d.transfer.accepted o else d.transfer.dropped o := by
  obtain ⟨events, h⟩ := d.hand_some o
  rw [h]

/-- Whether a frame is accepted or refused has no bearing on what was downloaded. -/
@[simp]
theorem downloadBytes_hand (d : Device) (offer : Option Offer) :
    (d.hand offer).transfer.downloadBytes = d.transfer.downloadBytes := by
  cases offer with
  | none => rfl
  | some o =>
    rw [transfer_hand_some]
    split
    · rfl
    · unfold Transfer.dropped
      split <;> rfl

@[simp]
theorem downloadSize_hand (d : Device) (offer : Option Offer) :
    (d.hand offer).transfer.downloadSize = d.transfer.downloadSize := by
  cases offer with
  | none => rfl
  | some o =>
    rw [transfer_hand_some]
    split
    · rfl
    · unfold Transfer.dropped
      split <;> rfl

theorem usb_hand_some (d : Device) (o : Offer) :
    (d.hand (some o)).usb = (d.usb.replaceIn o.frame).2 := by
  obtain ⟨events, h⟩ := d.hand_some o
  rw [h]

/-- Whether there is a frame or not, at most the controller, the exchange and the log change. -/
theorem hand_eq (d : Device) (offer : Option Offer) : ∃ usb transfer events,
    d.hand offer = { d with usb, transfer, events } := by
  cases offer with
  | none => exact ⟨d.usb, d.transfer, d.events, rfl⟩
  | some o =>
    obtain ⟨events, h⟩ := d.hand_some o
    exact ⟨_, _, events, h⟩

@[simp]
theorem settings_hand (d : Device) (offer : Option Offer) :
    (d.hand offer).settings = d.settings := by
  obtain ⟨_, _, _, h⟩ := d.hand_eq offer
  rw [h]

@[simp]
theorem board_hand (d : Device) (offer : Option Offer) : (d.hand offer).board = d.board := by
  obtain ⟨_, _, _, h⟩ := d.hand_eq offer
  rw [h]

@[simp]
theorem staging_hand (d : Device) (offer : Option Offer) : (d.hand offer).staging = d.staging := by
  obtain ⟨_, _, _, h⟩ := d.hand_eq offer
  rw [h]

@[simp]
theorem inbound_hand (d : Device) (offer : Option Offer) : (d.hand offer).inbound = d.inbound := by
  obtain ⟨_, _, _, h⟩ := d.hand_eq offer
  rw [h]

@[simp]
theorem lifecycle_hand (d : Device) (offer : Option Offer) :
    (d.hand offer).lifecycle = d.lifecycle := by
  obtain ⟨_, _, _, h⟩ := d.hand_eq offer
  rw [h]

/-- Arming a request changes the controller and what is noted of the request. -/
theorem arm_eq (d : Device) : ∃ usb requested, d.arm = { d with usb, requested } := by
  unfold arm request
  split
  · exact ⟨_, _, rfl⟩
  · exact ⟨d.usb, d.requested, rfl⟩

@[simp]
theorem toTarget_arm (d : Device) : d.arm.toTarget = d.toTarget := by
  obtain ⟨_, _, h⟩ := d.arm_eq
  rw [h]

/-! ### Frames that meet the controller -/

/-- A frame is taken unless a failure was due. -/
theorem accepts_iff_failNext : d.Accepts o ↔ d.usb.failNext = false := by
  rw [Accepts, Controller.replaceIn_eq]
  split_ifs with hfail
  · simp [hfail]
  · simp [hfail]

theorem pending_hand_some (d : Device) (o : Offer) :
    (d.hand (some o)).usb.pending = if d.usb.failNext then none else some o.frame := by
  rw [usb_hand_some, Controller.replaceIn_eq, Controller.cancelIn_eq]
  by_cases hfail : d.usb.failNext = true
  · rw [if_pos hfail, if_pos hfail]
  · rw [if_neg hfail, if_neg hfail]

/-- Whether it is taken or not, the next frame is. -/
theorem failNext_hand_some (d : Device) (o : Offer) :
    (d.hand (some o)).usb.failNext = false := by
  rw [usb_hand_some, Controller.replaceIn_eq, Controller.cancelIn_eq]
  by_cases hfail : d.usb.failNext = true
  · rw [if_pos hfail]
  · rw [if_neg hfail]
    exact Bool.eq_false_iff.mpr hfail

/-- A frame on offer is queued unless a failure was due, and nothing else is. -/
theorem queued_hand (d : Device) (offer : Option Offer) : (d.hand offer).usb.queued =
    d.usb.queued + if offer.isSome && !d.usb.failNext then 1 else 0 := by
  cases offer with
  | none => rfl
  | some o =>
    rw [usb_hand_some, Controller.queued_replaceIn]
    cases d.usb.failNext <;> rfl

/-- A request does not touch the frames. -/
theorem usb_request (d : Device) (length : Nat) :
    ∃ armed, (d.request length).2.usb = { d.usb with armed } := by
  simp only [request, Controller.queueOut]
  split_ifs
  · exact ⟨d.usb.armed, rfl⟩
  · exact ⟨some length, rfl⟩

theorem usb_arm (d : Device) : ∃ armed, d.arm.usb = { d.usb with armed } := by
  rw [Device.arm]
  split_ifs
  · exact d.usb_request _
  · exact ⟨d.usb.armed, rfl⟩

@[simp]
theorem pending_arm (d : Device) : d.arm.usb.pending = d.usb.pending := by
  obtain ⟨_, h⟩ := d.usb_arm
  rw [h]

@[simp]
theorem queued_arm (d : Device) : d.arm.usb.queued = d.usb.queued := by
  obtain ⟨_, h⟩ := d.usb_arm
  rw [h]
  rfl

@[simp]
theorem failNext_arm (d : Device) : d.arm.usb.failNext = d.usb.failNext := by
  obtain ⟨_, h⟩ := d.usb_arm
  rw [h]

@[simp]
theorem lifecycle_arm (d : Device) : d.arm.lifecycle = d.lifecycle := by
  obtain ⟨_, _, h⟩ := d.arm_eq
  rw [h]

end Device

end Fastboot
