import Fastboot.Proofs.Device.DataPhase

/-!
# One answer for every command

`d.answer data` is the response that a device has for a command, or for bytes that are none. What goes out is
`Response.fitted`: the whole of it, or a `FAIL` that says it was too long, but never a part. `answer_run`
says that a command queues that one frame in the place of the frame before it, and that the exchange is
afterwards in the data phase that the frame announces.

The two sides of the second part are `Response.announced?` and `Transfer.phase?`. Every command keeps them
equal (`Command.Outcome.phase?_eq`), and so does handing the frame over.
-/

namespace Fastboot

/-- The size of the data phase that a response announces. -/
def Response.announced? : Response → Option UInt32
  | data size => some size
  | _ => none

/-- What goes out for a response: the response, or a `FAIL` where its text does not fit a frame. -/
def Response.fitted (r : Response) : Response :=
  if r.text.utf8ByteSize ≤ Frame.capacity then r else .fail "response too long"

/-- The size of the data phase that an exchange is in. -/
def Transfer.phase? (t : Transfer) : Option UInt32 :=
  match t.mode with
  | .idle => none
  | .downloading => some t.downloadSize
  | .uploading => some t.uploadSize

namespace Response

variable {r : Response} {size : UInt32}

theorem announced?_eq_some_iff : r.announced? = some size ↔ r = .data size := by
  cases r <;> simp [announced?]

/-- What goes out always fits. -/
theorem utf8ByteSize_fitted_le (r : Response) : r.fitted.text.utf8ByteSize ≤ Frame.capacity := by
  rw [fitted]
  split_ifs with hfits
  · exact hfits
  · decide

/-- The start of a data phase is never replaced, and its replacement would not be one. -/
@[simp]
theorem announced?_fitted (r : Response) : r.fitted.announced? = r.announced? := by
  rw [fitted]
  split_ifs with hfits
  · rfl
  · rcases r with value | reason | size
    · rfl
    · rfl
    · exact absurd (utf8ByteSize_text_data size) hfits

end Response

/-- A reply goes out as its response does. -/
theorem Reply.response_fitted (r : Reply) : r.fitted.response = r.response.fitted := by
  rw [Response.fitted]
  split_ifs with hfits
  · rw [fitted_of_le hfits]
  · have hframe := Response.frame_eq_error_iff.mpr ⟨Nat.lt_of_not_le hfits, rfl⟩
    rw [Reply.fitted, hframe]
    rfl

namespace Transfer

variable {t : Transfer} {size : UInt32}

theorem phase?_eq_none_iff : t.phase? = none ↔ t.mode = .idle := by
  rw [phase?]
  cases t.mode <;> simp

theorem phase?_eq_some_iff : t.phase? = some size ↔
    t.mode = .downloading ∧ t.downloadSize = size ∨ t.mode = .uploading ∧ t.uploadSize = size := by
  rw [phase?]
  cases t.mode <;> simp

end Transfer

namespace Command

variable {command : String} {t t' : Target} {reply : Reply}

/-- **A command opens the data phase that it announces, and no other.** -/
theorem Outcome.phase?_eq (h : Outcome command t reply t') (hmode : t.transfer.mode = .idle) :
    t'.transfer.phase? = reply.response.announced? := by
  have hidle : ∀ {s : Transfer}, s.mode = t.transfer.mode → s.phase? = none := fun hs =>
    Transfer.phase?_eq_none_iff.mpr (hs.trans hmode)
  cases h with
  | answer response _ _ _ _ hresponse =>
    refine (hidle rfl).trans ?_
    rcases response with _ | _ | size
    · rfl
    · rfl
    · exact absurd rfl (hresponse size)
  | exit => exact hidle rfl
  | refuse => exact hidle rfl
  | request => exact hidle rfl
  | download => rw [Target.transfer_transition]; rfl
  | upload => rw [Target.transfer_transition]; rfl

end Command

namespace Device

variable {d d' : Device} {data : ByteArray} {offer : Option Offer} {o : Offer}

/-- The response to an incoming transfer that is taken as a command. -/
def answer (d : Device) (data : ByteArray) : Response :=
  if d.settings.bufferSize ≤ data.size then .fail "buffer overflow"
  else match commandText? data with
    | none => .fail "invalid command"
    | some text =>
      (Command.dispatch text (d.endUpload.toTarget.emit (.command text))).1.response

/-- The size of the data phase that a frame announces. -/
def Offer.announced? : Offer → Option UInt32
  | reply r => r.response.announced?
  | chunk _ => none

theorem Offer.announced?_eq_some_iff {size : UInt32} :
    o.announced? = some size ↔ ∃ next, o = .reply ⟨.data size, next⟩ := by
  rcases o with ⟨response, next⟩ | data
  · simp [announced?, Response.announced?_eq_some_iff]
  · simp [announced?]

/-- `e` is `d` with the frame of a response queued in the place of the frame before it, and the exchange in
the data phase that the frame announces. -/
structure Responds (d : Device) (response : Response) (e : Device) : Prop where
  pending_eq : e.usb.pending = some (frameOf response)
  queued_eq : e.usb.queued = d.usb.queued + 1
  sent_eq : e.usb.sent = d.usb.sent
  cancelled_eq : e.usb.cancelled = d.usb.cancelled + if d.usb.pending.isSome then 1 else 0
  phase?_eq : e.transfer.phase? = response.announced?

/-- Every command has a reply, and its response is the answer. -/
theorem Sound.exists_reply (h : d.Sound none) (henabled : d.lifecycle = .enabled)
    (hmode : d.transfer.mode ≠ .downloading) (data : ByteArray) : ∃ reply,
      d.offer? (.received .completed data) = some (.reply reply) ∧
        reply.response = d.answer data := by
  obtain ⟨b, hb, hcapacity⟩ := h.inbound henabled
  have hend := d.endUpload_eq
  have hsettings : d.endUpload.settings = d.settings := by rw [hend]
  have hinbound : d.endUpload.inbound = some b := by rw [hend]; exact hb
  have hoffer : d.offer? (.received .completed data) = (d.receiveCommand .completed data).2 := by
    rw [offer?, take, if_pos henabled, receive]
    rcases hcase : d.transfer.mode with _ | _ | _
    · rfl
    · exact absurd hcase hmode
    · rfl
  rw [hoffer, answer]
  simp only [receiveCommand, hsettings]
  split_ifs with hlong
  · exact ⟨_, rfl, rfl⟩
  · obtain ⟨b', hb', htake, -⟩ := Buffer.exists_writeAt_zero
      (hcapacity.symm ▸ Nat.le_of_lt (Nat.lt_of_not_le hlong) : data.size ≤ b.capacity)
    simp only [receiveInbound, hinbound, hb', htake, runCommand]
    rcases commandText? data with _ | text
    · exact ⟨_, rfl, rfl⟩
    · exact ⟨_, rfl, rfl⟩

/-- A command is not answered if the controller was due to fail. -/
theorem Sound.pending_of_failNext (h : d.Sound none) (henabled : d.lifecycle = .enabled)
    (hmode : d.transfer.mode ≠ .downloading) (hfail : d.usb.failNext = true) (data : ByteArray) :
    (d.onOutComplete .completed data).usb.pending = none := by
  obtain ⟨reply, hoffer, -⟩ := h.exists_reply henabled hmode data
  exact (h.pending_call_of_some hoffer).trans (if_pos hfail)

/-- A transfer that is answered leaves the exchange in the data phase that its answer announces. -/
theorem Reception.phase?_eq {status : TransferStatus} (hr : Reception d data status d' (some o)) :
    d'.transfer.phase? = o.announced? := by
  cases hr with
  | refused _ _ _ hmode => exact Transfer.phase?_eq_none_iff.mpr (Transfer.mode_interrupted hmode)
  | command text _ _ events hmode _ _ hrun =>
    have houtcome := Command.outcome_dispatch text
      { d.toTarget with transfer := d.transfer.interrupted, events }
    rw [hrun] at houtcome
    exact houtcome.phase?_eq (Transfer.mode_interrupted hmode)
  | broken => rfl
  | last => rfl

/-- A status frame makes no difference to the data phase. -/
theorem phase?_hand_reply (d : Device) (reply : Reply) :
    (d.hand (some (.reply reply))).transfer.phase? = d.transfer.phase? := by
  rw [transfer_hand_some]
  split_ifs
  · rfl
  · rfl

/-- **A command is answered by one frame**, if the controller takes it. -/
theorem Sound.responds (h : d.Sound none) (henabled : d.lifecycle = .enabled)
    (hmode : d.transfer.mode ≠ .downloading) (data : ByteArray)
    (haccepts : (d.usb.replaceIn (frameOf (d.answer data).fitted)).1 = .ok ()) :
    d.Responds (d.answer data).fitted (d.call (.received .completed data)) := by
  obtain ⟨reply, hoffer, hresponse⟩ := h.exists_reply henabled hmode data
  have hframe : (Offer.reply reply).frame = frameOf (d.answer data).fitted := by
    rw [Offer.frame, Reply.response_fitted, hresponse]
    rfl
  obtain ⟨armed, husb⟩ := h.usb_call_of_some hoffer
  have hfail : d.usb.failNext = false := by
    rw [← hframe] at haccepts
    exact accepts_iff_failNext.mp haccepts
  rw [hframe, Controller.replaceIn_eq, Controller.cancelIn_eq, if_neg (by simp [hfail])] at husb
  obtain ⟨d', offer, hr, hoffer', hcall⟩ := h.exists_reception henabled .completed data
  obtain rfl := hoffer'.symm.trans hoffer
  exact {
    pending_eq := by rw [husb]
    queued_eq := by rw [h.queued_call, hoffer, hfail]; rfl
    sent_eq := by rw [husb]
    cancelled_eq := by rw [husb]
    phase?_eq := by
      rw [show d.call (.received .completed data) = _ from hcall, toTarget_arm, phase?_hand_reply,
        hr.phase?_eq, Offer.announced?, hresponse, Response.announced?_fitted] }

/-- The bytes of a status frame are those of its text. -/
theorem size_frameOf (response : Response) :
    (frameOf response).size = 4 + response.body.utf8ByteSize := by
  have htext : (frameOf response).size = response.text.utf8ByteSize := rfl
  rw [htext, Response.text, String.utf8ByteSize_append, Response.utf8ByteSize_tag]

/-- **One answer for every command.** Whatever a device has been through, over whatever board, a transfer that
it takes as a command is answered by one frame in the place of the frame before it, unless the controller
refuses that. The frame has 4 to 64 bytes and holds the answer, whole or replaced by a `FAIL`. Then the
exchange is in the data phase that the frame announces, of that size, and in none if it announces none. -/
theorem answer_run {settings : Settings} {usb : Controller} {board : Board}
    (hbind : bind settings usb board = .ok d) (before : List Action) (data : ByteArray)
    (henabled : (d.run before).lifecycle = .enabled)
    (hmode : (d.run before).transfer.mode ≠ .downloading)
    (haccepts : ((d.run before).usb.replaceIn
      (frameOf ((d.run before).answer data).fitted)).1 = .ok ()) :
    ∃ response e, response = ((d.run before).answer data).fitted ∧
      e = (d.run before).call (.received .completed data) ∧
      (d.run before).Responds response e ∧
      4 ≤ (frameOf response).size ∧ (frameOf response).size ≤ 64 ∧
      Response.parse? (frameOf response) = some response ∧
      (∀ size, response = .data size ↔
        e.transfer.mode = .downloading ∧ e.transfer.downloadSize = size ∨
          e.transfer.mode = .uploading ∧ e.transfer.uploadSize = size) ∧
      (e.transfer.mode = .idle ↔ response.isOkay ∨ response.isFail) := by
  have hresponds := ((sound_of_bind hbind).run before).responds henabled hmode data haccepts
  refine ⟨_, _, rfl, rfl, hresponds, ?_, Response.utf8ByteSize_fitted_le _, Response.parse?_text _,
    fun size => ?_, ?_⟩
  · rw [size_frameOf]
    exact Nat.le_add_right 4 _
  · rw [← Response.announced?_eq_some_iff, ← hresponds.phase?_eq, Transfer.phase?_eq_some_iff]
  · rw [← Transfer.phase?_eq_none_iff, hresponds.phase?_eq]
    cases ((d.run before).answer data).fitted <;> simp [Response.announced?, Response.isOkay,
      Response.isFail]

/-- A download that is announced while the answer to another command is still queued. -/
theorem answer_run_download :
    let before := [.call .enable, .call (.received .completed "getvar:version".toUTF8)]
    (tiny.run before).usb.pending = some "OKAY0.4".toUTF8 ∧
      ∃ e, e = (tiny.run before).call (.received .completed "download:00000004".toUTF8) ∧
        (tiny.run before).Responds (.data 4) e ∧
          (e.transfer.mode = .downloading ∧ e.transfer.downloadSize = 4 ∨
            e.transfer.mode = .uploading ∧ e.transfer.uploadSize = 4) := by
  intro before
  have hanswer : ((tiny.run before).answer "download:00000004".toUTF8).fitted = .data 4 := by
    decide +kernel
  obtain ⟨response, e, hresponse, he, hresponds, -, -, -, hdata, -⟩ := answer_run bind_tiny before
    "download:00000004".toUTF8 (by decide +kernel) (by decide +kernel) (by decide +kernel)
  obtain rfl := hresponse.trans hanswer
  exact ⟨by decide +kernel, e, he, hresponds, (hdata 4).mp rfl⟩

end Device

end Fastboot
