import Fastboot.Proofs.Controller.Conservation
import Fastboot.Proofs.Device.DataPhase

/-!
# Two ways to replace a frame

A controller replaces the queued frame in one step, or it cancels that and then queues the other.
`c.replacing atOnce` is a controller that is as `c` is in all else. Nothing that is done to it depends
on which of the two it does, and nothing changes it (`use_replacing`).

A device asks its controller only to arm requests, to cancel and to replace. To do its part of a call it
does not look at the controller at all (`receive_withUsb`, `proceed_withUsb`). So over the same run two
devices whose controllers differ in how they replace frames stay equal in all else (`run_replacing`).
-/

namespace Fastboot

namespace Controller

/-- The controller, but that it replaces frames in one step or in two. -/
def replacing (c : Controller) (atOnce : Bool) : Controller :=
  { c with replacesAtOnce := atOnce }

variable (c : Controller) (atOnce : Bool)

@[simp]
theorem pending_replacing : (c.replacing atOnce).pending = c.pending := rfl

@[simp]
theorem failNext_replacing : (c.replacing atOnce).failNext = c.failNext := rfl

@[simp]
theorem refusesOut_replacing : (c.replacing atOnce).refusesOut = c.refusesOut := rfl

theorem queueOut_replacing (length : Nat) : (c.replacing atOnce).queueOut length =
    ((c.queueOut length).1, (c.queueOut length).2.replacing atOnce) := by
  rw [queueOut, queueOut, refusesOut_replacing]
  split_ifs <;> rfl

theorem cancelIn_replacing : (c.replacing atOnce).cancelIn = c.cancelIn.replacing atOnce := by
  rw [cancelIn_eq, cancelIn_eq]
  rfl

/-- **A frame is replaced in two steps as in one.** A failure that is due comes behind the old frame,
and where that is gone it cannot be in the way of the new one. -/
theorem replaceIn_replacing (frame : ByteArray) : (c.replacing atOnce).replaceIn frame =
    ((c.replaceIn frame).1, (c.replaceIn frame).2.replacing atOnce) := by
  rw [replaceIn_eq, replaceIn_eq, cancelIn_replacing, failNext_replacing]
  split_ifs <;> rfl

theorem queueIn_replacing (frame : ByteArray) : (c.replacing atOnce).queueIn frame =
    ((c.queueIn frame).1, (c.queueIn frame).2.replacing atOnce) := by
  rw [queueIn, queueIn, failNext_replacing, pending_replacing]
  split_ifs <;> rfl

theorem completeIn_replacing : (c.replacing atOnce).completeIn =
    (c.completeIn.1, c.completeIn.2.replacing atOnce) := by
  rw [completeIn, completeIn, pending_replacing]
  cases c.pending <;> rfl

/-- Whatever a controller is used for, it is used for the same. -/
theorem use_replacing (u : Use) : (c.replacing atOnce).use u =
    ((c.use u).1, (c.use u).2.replacing atOnce) := by
  cases u with
  | queueIn frame => exact c.queueIn_replacing atOnce frame
  | replaceIn frame => exact c.replaceIn_replacing atOnce frame
  | cancelIn => exact congrArg (Prod.mk _) (c.cancelIn_replacing atOnce)
  | completeIn => exact congrArg (fun x => (Except.ok (), x.2)) (c.completeIn_replacing atOnce)
  | failNextQueue => rfl

end Controller

namespace Device

/-- The device over another controller. -/
def withUsb (d : Device) (usb : Controller) : Device :=
  { d with usb }

/-- The device, but that its controller replaces frames in one step or in two. -/
def replacing (d : Device) (atOnce : Bool) : Device :=
  d.withUsb (d.usb.replacing atOnce)

/-! ### What is done without the controller -/

section WithUsb

variable (d : Device) (usb : Controller)

@[simp]
theorem toTarget_withUsb : (d.withUsb usb).toTarget = d.toTarget := rfl

@[simp]
theorem inbound_withUsb : (d.withUsb usb).inbound = d.inbound := rfl

@[simp]
theorem lifecycle_withUsb : (d.withUsb usb).lifecycle = d.lifecycle := rfl

theorem endUpload_withUsb : (d.withUsb usb).endUpload = d.endUpload.withUsb usb := by
  rw [endUpload, endUpload, toTarget_withUsb]
  split_ifs <;> rfl

theorem runCommand_withUsb (received : ByteArray) : (d.withUsb usb).runCommand received =
    ((d.runCommand received).1, (d.runCommand received).2.withUsb usb) := by
  rw [runCommand, runCommand]
  cases commandText? received <;> rfl

theorem receiveInbound_withUsb (data : ByteArray) : (d.withUsb usb).receiveInbound data =
    ((d.receiveInbound data).1.withUsb usb, (d.receiveInbound data).2) := by
  rw [receiveInbound, receiveInbound, inbound_withUsb]
  rcases d.inbound with _ | inbound
  · rfl
  dsimp only
  rcases inbound.writeAt 0 data with _ | inbound
  · rfl
  dsimp only
  rcases inbound.take data.size with _ | received
  · rfl
  dsimp only
  rw [runCommand_withUsb]
  rfl

theorem receiveCommand_withUsb (status : TransferStatus) (data : ByteArray) :
    (d.withUsb usb).receiveCommand status data =
      ((d.receiveCommand status data).1.withUsb usb, (d.receiveCommand status data).2) := by
  rcases status with _ | code
  · rw [receiveCommand, receiveCommand, endUpload_withUsb, toTarget_withUsb]
    split_ifs
    · rfl
    · exact d.endUpload.receiveInbound_withUsb usb data
  · rfl

theorem closeDownload_withUsb : (d.withUsb usb).closeDownload =
    (d.closeDownload.1.withUsb usb, d.closeDownload.2) := by
  rw [closeDownload, closeDownload, toTarget_withUsb]
  split_ifs <;> rfl

theorem receiveData_withUsb (status : TransferStatus) (data : ByteArray) :
    (d.withUsb usb).receiveData status data =
      ((d.receiveData status data).1.withUsb usb, (d.receiveData status data).2) := by
  rcases status with _ | code
  · rw [receiveData, receiveData, toTarget_withUsb]
    dsimp only
    rcases d.toTarget.stage _ _ with ⟨range | ⟨⟩, target⟩
    · rfl
    · exact ({ d with toTarget := target }.countDownload _).closeDownload_withUsb usb
  · rfl

/-- **A transfer is taken without a look at the controller.** -/
theorem receive_withUsb (status : TransferStatus) (data : ByteArray) :
    (d.withUsb usb).receive status data =
      ((d.receive status data).1.withUsb usb, (d.receive status data).2) := by
  rw [receive, receive, toTarget_withUsb]
  rcases d.transfer.mode with _ | _ | _
  · exact d.receiveCommand_withUsb usb status data
  · exact d.receiveData_withUsb usb status data
  · exact d.receiveCommand_withUsb usb status data

theorem countUpload_withUsb (actual : Nat) :
    (d.withUsb usb).countUpload actual = (d.countUpload actual).withUsb usb := by
  rw [countUpload, countUpload, toTarget_withUsb]
  split_ifs <;> rfl

theorem sendUpload_withUsb : (d.withUsb usb).sendUpload =
    (d.sendUpload.1.withUsb usb, d.sendUpload.2) := by
  rw [sendUpload, sendUpload, toTarget_withUsb]
  dsimp only
  split_ifs
  · rfl
  · rcases d.staging.read _ _ with range | chunk <;> rfl

/-- **What follows a frame is done without a look at the controller.** -/
theorem proceed_withUsb (status : TransferStatus) (actual : Nat) : (d.withUsb usb).proceed status actual =
    ((d.proceed status actual).1.withUsb usb, (d.proceed status actual).2) := by
  rw [proceed.eq_def, proceed.eq_def, toTarget_withUsb]
  rcases status with _ | code
  · rcases d.transfer.next with _ | _ | action
    · rfl
    · have hsend := (d.settle.countUpload actual).sendUpload_withUsb usb
      rw [← countUpload_withUsb] at hsend
      exact hsend
    · rcases action with _ | _ | _ <;> rfl
  · rcases d.transfer.next with _ | _ | action <;> rfl

end WithUsb

/-! ### What is asked of the controller -/

section Replacing

variable (d : Device) (atOnce : Bool)

theorem queueResponse_replacing (response : Response) (next : Continuation) (frame : Frame) :
    (d.replacing atOnce).queueResponse response next frame =
      (d.queueResponse response next frame).replacing atOnce := by
  rw [queueResponse, queueResponse, show (d.replacing atOnce).usb = d.usb.replacing atOnce from rfl,
    Controller.replaceIn_replacing]
  rcases d.usb.replaceIn frame.bytes with ⟨e | ⟨⟩, usb⟩ <;> rfl

theorem sendReply_replacing (reply : Reply) :
    (d.replacing atOnce).sendReply reply = (d.sendReply reply).replacing atOnce := by
  rw [sendReply, sendReply]
  rcases reply.response.frame with e | frame
  · dsimp only
    rcases (Response.fail Fault.responseTooLong.message).frame with e | frame
    · rfl
    · exact d.queueResponse_replacing atOnce _ _ frame
  · exact d.queueResponse_replacing atOnce _ _ frame

theorem queueChunk_replacing (chunk : ByteArray) :
    (d.replacing atOnce).queueChunk chunk = (d.queueChunk chunk).replacing atOnce := by
  rw [queueChunk, queueChunk, show (d.replacing atOnce).usb = d.usb.replacing atOnce from rfl,
    Controller.replaceIn_replacing]
  rcases d.usb.replaceIn chunk with ⟨e | ⟨⟩, usb⟩ <;> rfl

theorem hand_replacing (offer : Option Offer) :
    (d.replacing atOnce).hand offer = (d.hand offer).replacing atOnce := by
  rcases offer with _ | reply | chunk
  · rfl
  · exact d.sendReply_replacing atOnce reply
  · exact d.queueChunk_replacing atOnce chunk

theorem request_replacing (length : Nat) : (d.replacing atOnce).request length =
    ((d.request length).1, (d.request length).2.replacing atOnce) := by
  rw [request, request, show (d.replacing atOnce).usb = d.usb.replacing atOnce from rfl,
    Controller.queueOut_replacing]
  rfl

theorem arm_replacing : (d.replacing atOnce).arm = d.arm.replacing atOnce := by
  rw [arm, arm, replacing, lifecycle_withUsb, toTarget_withUsb]
  split_ifs
  · exact congrArg Prod.snd (d.request_replacing atOnce _)
  · rfl

theorem enable_replacing : (d.replacing atOnce).enable =
    (d.enable.1, d.enable.2.replacing atOnce) := by
  rw [enable, enable, replacing, lifecycle_withUsb]
  split_ifs
  · rfl
  · exact request_replacing
      { d with
        inbound := some (.empty d.settings.bufferSize), transfer := {}, lifecycle := .enabled }
      atOnce d.settings.bufferSize

theorem disable_replacing : (d.replacing atOnce).disable = d.disable.replacing atOnce := by
  rw [disable, disable, replacing, lifecycle_withUsb]
  split_ifs
  · exact congrArg
      (fun usb => ({ d with
        usb, inbound := none, requested := 0, transfer := {}, lifecycle := .bound } : Device))
      (d.usb.cancelIn_replacing atOnce)
  · rfl

/-- A transfer is taken, and the controller is still the one it was. -/
theorem receive_replacing (status : TransferStatus) (data : ByteArray) :
    (d.replacing atOnce).receive status data =
      ((d.receive status data).1.replacing atOnce, (d.receive status data).2) := by
  have husb : (d.receive status data).1.usb = d.usb :=
    congrArg (·.1.usb) (d.receive_withUsb d.usb status data)
  rw [replacing, receive_withUsb, replacing, husb]

theorem proceed_replacing (status : TransferStatus) (actual : Nat) :
    (d.replacing atOnce).proceed status actual =
      ((d.proceed status actual).1.replacing atOnce, (d.proceed status actual).2) := by
  have husb : (d.proceed status actual).1.usb = d.usb :=
    congrArg (·.1.usb) (d.proceed_withUsb d.usb status actual)
  rw [replacing, proceed_withUsb, replacing, husb]

/-- A call makes no difference between the two ways. -/
theorem call_replacing (c : Call) : (d.replacing atOnce).call c = (d.call c).replacing atOnce := by
  rcases c with _ | _ | ⟨status, data⟩ | ⟨status, actual⟩
  · exact congrArg Prod.snd (d.enable_replacing atOnce)
  · exact d.disable_replacing atOnce
  · rw [call, call, onOutComplete, onOutComplete, receive_replacing]
    dsimp only
    rw [hand_replacing, arm_replacing, replacing, lifecycle_withUsb]
    split_ifs <;> rfl
  · rw [call, call, onInComplete, onInComplete, proceed_replacing]
    dsimp only
    rw [hand_replacing, replacing, lifecycle_withUsb]
    split_ifs <;> rfl

end Replacing

/-! ### Runs -/

/-- What the world does to a controller does not depend on how that replaces frames, and leaves it so. -/
def Action.Oblivious : Action → Prop
  | .call _ => True
  | .world usb _ => ∀ c atOnce, usb (c.replacing atOnce) = (usb c).replacing atOnce

/-- To use a controller is oblivious. -/
theorem oblivious_use (u : Controller.Use) (board : Board → Board) :
    (Action.world (fun c => (c.use u).2) board).Oblivious := fun c atOnce =>
  congrArg Prod.snd (c.use_replacing atOnce u)

theorem oblivious_takeOut (board : Board → Board) :
    (Action.world (fun c => c.takeOut.2) board).Oblivious := fun _ _ => rfl

variable {d d' : Device} {a : Action} {actions : List Action}

theorem act_replacing (ha : a.Oblivious) (d : Device) (atOnce : Bool) :
    (d.replacing atOnce).act a = (d.act a).replacing atOnce := by
  rcases a with c | ⟨usb, board⟩
  · exact d.call_replacing atOnce c
  · exact congrArg (fun usb => ({ d with usb, board := board d.board } : Device)) (ha d.usb atOnce)

/-- A run makes no difference between the two ways. -/
theorem run_replacing (hactions : ∀ a ∈ actions, a.Oblivious) (d : Device) (atOnce : Bool) :
    (d.replacing atOnce).run actions = (d.run actions).replacing atOnce := by
  induction actions generalizing d with
  | nil => rfl
  | cons a actions ih =>
    obtain ⟨ha, hactions⟩ := List.forall_mem_cons.mp hactions
    rw [run_cons, act_replacing ha, ih hactions, run_cons]

theorem bind_replacing (settings : Settings) (usb : Controller) (board : Board) (atOnce : Bool) :
    bind settings (usb.replacing atOnce) board =
      (bind settings usb board).map (·.replacing atOnce) := by
  rw [bind, bind]
  rcases settings.check with e | ⟨⟩ <;> rfl

/-- **The two ways to replace a frame are interchangeable.** A device is bound over either controller or
over neither, for the same reason. Over every run, the exchange, the log, the frame that is queued,
those that went out and the number of those cancelled are the same for both; there is no difference but
in the controllers themselves. -/
theorem interchangeable_run (settings : Settings) (usb : Controller) (board : Board) :
    bind settings (usb.replacing false) board =
        (bind settings (usb.replacing true) board).map (·.replacing false) ∧
      ∀ d d', bind settings (usb.replacing true) board = .ok d →
        bind settings (usb.replacing false) board = .ok d' →
        ∀ actions : List Action, (∀ a ∈ actions, a.Oblivious) →
          (d'.run actions).transfer = (d.run actions).transfer ∧
          (d'.run actions).events = (d.run actions).events ∧
          (d'.run actions).usb.pending = (d.run actions).usb.pending ∧
          (d'.run actions).usb.sent = (d.run actions).usb.sent ∧
          (d'.run actions).usb.cancelled = (d.run actions).usb.cancelled ∧
          d'.run actions = (d.run actions).replacing false := by
  have hbound : bind settings (usb.replacing false) board =
      (bind settings (usb.replacing true) board).map (·.replacing false) :=
    bind_replacing settings (usb.replacing true) board false
  refine ⟨hbound, fun d d' hbind hbind' actions hactions => ?_⟩
  rw [hbind, hbind'] at hbound
  obtain rfl : d' = d.replacing false := Except.ok.inj hbound
  rw [run_replacing hactions]
  exact ⟨rfl, rfl, rfl, rfl, rfl, rfl⟩

/-- A session in which one frame is replaced, the next is refused in the place of another, and the last
one goes out. -/
def replacingSession : List Action :=
  [.call .enable, .world (·.takeOut.2) id, asks "getvar:version", asks "getvar:product",
    .world (fun c => (c.use .failNextQueue).2) id, asks "getvar:secure", asks "reboot",
    .world (fun c => (c.use .completeIn).2) id, .call (.sent .completed 4)]

/-- Two frames are cancelled and one goes out, whichever way they are replaced. -/
theorem interchangeable_run_refused :
    bind tiny.settings (.replacing {} true) {} = .ok tiny ∧
      bind tiny.settings (.replacing {} false) {} = .ok (tiny.replacing false) ∧
      (∀ a ∈ replacingSession, a.Oblivious) ∧
      ((tiny.replacing false).run replacingSession).usb.sent = #["OKAY".toUTF8] ∧
      ((tiny.replacing false).run replacingSession).usb.cancelled = 2 := by
  have hbind : bind tiny.settings (.replacing {} true) {} = .ok tiny := bind_tiny
  have hbind' : bind tiny.settings (.replacing {} false) {} = .ok (tiny.replacing false) := rfl
  have hoblivious : ∀ a ∈ replacingSession, a.Oblivious := by
    simp only [replacingSession, List.forall_mem_cons]
    exact ⟨trivial, oblivious_takeOut id, trivial, trivial, oblivious_use .failNextQueue id, trivial,
      trivial, oblivious_use .completeIn id, trivial, nofun⟩
  obtain ⟨-, -, -, hsent, hcancelled, -⟩ := (interchangeable_run tiny.settings {} {}).2 tiny
    (tiny.replacing false) hbind hbind' replacingSession hoblivious
  refine ⟨hbind, hbind', hoblivious, ?_, ?_⟩
  · rw [hsent]
    decide +kernel
  · rw [hcancelled]
    decide +kernel

end Device

end Fastboot
