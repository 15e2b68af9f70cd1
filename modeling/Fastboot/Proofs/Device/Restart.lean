import Fastboot.Proofs.Device.Alike
import Fastboot.Proofs.Device.DataPhase

/-!
# A session knows nothing of the one before

Ending a session resets the exchange, takes the queued frame away and leaves the staging buffer as it is.
`Device.watch` collects what shows of a device over a run, the frame that the host can collect included, and
`watch_restart` says that from the start of its next session on it is what a device shows that has just been
bound: whatever was staged or queued before, nobody gets to see any of it.

A frame can be queued while no session is on, but only by others (`stray?_run`). It is none of the device's,
and the device just bound finds the same one in its controller.

The two devices share the run that follows. What the world does to their controllers in it must not depend
on the frames that went out or were cancelled before, which are not the same (`Action.Blind`); whether
failures are injected, requests taken or frames collected makes no difference.
-/

namespace Fastboot.Device

variable {d d' : Device} {seen seen' : List Event}

/-- What shows of a device when something has happened. -/
structure Sight where
  /-- The frame that was queued, if one was. -/
  frame : Option ByteArray
  /-- The frame that the host can collect. -/
  pending : Option ByteArray
  /-- The length of the armed request. -/
  armed : Option Nat
  /-- What the observer was told meanwhile. -/
  events : List Event
  /-- The parts of the board, with what they were made to do. -/
  board : Board
  /-- The image that a boot hands over. -/
  image : ByteArray
  transfer : Transfer
  lifecycle : Lifecycle

/-- The frame that a call has queued. -/
def frame? (d : Device) : Action → Option ByteArray
  | .call c => if (d.call c).usb.queued = d.usb.queued then none else (d.call c).usb.pending
  | .world _ _ => none

def sight (d : Device) (a : Action) : Sight where
  frame := d.frame? a
  pending := (d.act a).usb.pending
  armed := (d.act a).usb.armed
  events := (d.act a).events.toList.drop d.events.size
  board := (d.act a).board
  image := (d.act a).bootImage
  transfer := (d.act a).transfer
  lifecycle := (d.act a).lifecycle

/-- What shows of a device over a run. -/
def watch (d : Device) : List Action → List Sight
  | [] => []
  | a :: actions => d.sight a :: (d.act a).watch actions

/-- What the world does to a controller does not depend on the frames that went out or were cancelled. -/
def Action.Blind : Action → Prop
  | .call _ => True
  | .world usb _ => ∀ c c', c.Alike c' → (usb c).Alike (usb c')

/-! ### Devices that are alike show the same -/

theorem Alike.act (h : Alike seen seen' d d') {a : Action} (ha : a.Blind) :
    Alike seen seen' (d.act a) (d'.act a) := by
  rcases a with c | ⟨usb, board⟩
  · exact h.call c
  · rw [Device.act, Device.act, h.board_eq]
    exact (h.withUsb (ha _ _ h.usb)).withTarget (h.toAlike.withBoard (board d.board))

/-- The frame that a call queues is the one that it offers, unless a failure was due. -/
theorem Sound.frame?_call (h : d.Sound none) (c : Call) :
    d.frame? (.call c) = if d.usb.failNext then none else (d.offer? c).map Offer.frame := by
  rw [frame?, h.queued_call]
  rcases hoffer : d.offer? c with _ | o
  · simp
  · rw [h.pending_call_of_some hoffer]
    cases d.usb.failNext <;> simp

theorem Alike.frame?_eq (h : Alike seen seen' d d') (hd : d.Sound none) (hd' : d'.Sound none)
    (a : Action) : d'.frame? a = d.frame? a := by
  rcases a with c | _
  · rw [hd.frame?_call, hd'.frame?_call, h.usb.failNext_eq,
      show d'.offer? c = d.offer? c from (h.take c).2]
  · rfl

/-- What shows is decided by what the devices are afterwards and by the frame. -/
theorem sight_eq_of_alike {a : Action}
    (h : Alike d.events.toList d'.events.toList (d.act a) (d'.act a))
    (hframe : d'.frame? a = d.frame? a) : d'.sight a = d.sight a := by
  obtain ⟨new, hnew, hnew'⟩ := h.events_eq
  have hevents : (d.act a).events.toList.drop d.events.size = new := by
    rw [hnew, ← Array.length_toList, List.drop_left]
  have hevents' : (d'.act a).events.toList.drop d'.events.size = new := by
    rw [hnew', ← Array.length_toList, List.drop_left]
  rw [sight, sight, hframe, h.usb.pending_eq, h.usb.armed_eq, hevents, hevents', h.board_eq, h.bootImage_eq,
    h.transfer_eq, h.lifecycle_eq]

/-- **Over the same run, the same shows.** -/
theorem Alike.watch_eq (h : Alike seen seen' d d') (hd : d.Sound none) (hd' : d'.Sound none)
    {actions : List Action} (hblind : ∀ a ∈ actions, a.Blind) :
    d'.watch actions = d.watch actions := by
  induction actions generalizing d d' seen seen' with
  | nil => rfl
  | cons a actions ih =>
    obtain ⟨ha, hactions⟩ := List.forall_mem_cons.mp hblind
    have hact := h.rebase.act ha
    rw [watch, watch, sight_eq_of_alike hact (h.frame?_eq hd hd' a),
      ih hact (hd.act a) (hd'.act a) hactions]

/-! ### The start of a session -/

/-- A session starts with nothing exposed. -/
theorem call_enable_eq (hlive : d.lifecycle ≠ .halted) (hopen : d.usb.refusesOut = false) :
    d.call .enable = { d with
      usb := { d.usb with armed := some d.settings.bufferSize }
      inbound := some (.empty d.settings.bufferSize)
      requested := d.settings.bufferSize
      transfer := {}
      lifecycle := .enabled } := by
  simp only [call, enable, if_neg hlive, request, Controller.queueOut, hopen]
  rfl

/-- The end of a session takes the queued frame away. -/
theorem usb_call_disable (henabled : d.lifecycle = .enabled) :
    (d.call .disable).usb = { d.usb with
      pending := none, cancelled := d.usb.cancelled + if d.usb.pending.isSome then 1 else 0 } := by
  rw [← Controller.cancelIn_eq, call, disable, if_pos henabled]

/-- The frame that is queued while no session is on. -/
def stray? (d : Device) : Option ByteArray :=
  if d.lifecycle = .bound then d.usb.pending else none

theorem stray?_eq_none_iff : d.stray? = none ↔ (d.lifecycle = .bound → d.usb.pending = none) := by
  unfold stray?
  split_ifs with hbound
  · exact ⟨fun hnone _ => hnone, fun hnone => hnone hbound⟩
  · exact iff_of_true rfl fun hbound' => absurd hbound' hbound

/-- The end of a session leaves the staging buffer, the board and the log alone. -/
theorem call_disable_eq (hlive : d.lifecycle ≠ .halted) : ∃ usb inbound requested transfer,
    { d.usb with pending := d.stray? }.Alike usb ∧
      d.call .disable = { d with usb, inbound, requested, transfer, lifecycle := .bound } := by
  rw [call, disable, stray?]
  rcases hlifecycle : d.lifecycle with _ | _ | _
  · refine ⟨d.usb, d.inbound, d.requested, d.transfer, ⟨rfl, rfl, rfl, rfl, rfl⟩, ?_⟩
    rw [if_neg (by decide), ← hlifecycle]
  · have hcancel : { d.usb with pending := none }.Alike d.usb.cancelIn := by
      rw [Controller.cancelIn_eq]
      exact ⟨rfl, rfl, rfl, rfl, rfl⟩
    exact ⟨d.usb.cancelIn, none, 0, {}, hcancel, if_pos rfl⟩
  · exact absurd hlifecycle hlive

/-- The device as it would be bound now. -/
def renewed (d : Device) : Device where
  toTarget := .start d.settings d.board
  usb := { maxPacket := d.usb.maxPacket, pending := d.stray? }

/-- A device that goes on with another session is like one that was just bound. -/
theorem alike_restart (h : d.Sound none) (hlive : d.lifecycle ≠ .halted)
    (hfail : d.usb.failNext = false) (hopen : d.usb.refusesOut = false) :
    Alike (d.call .disable).events.toList d.renewed.events.toList
      ((d.call .disable).call .enable) (d.renewed.call .enable) := by
  obtain ⟨usb, inbound, requested, transfer, husb, hdisable⟩ := call_disable_eq hlive
  have hlive' : d.renewed.lifecycle ≠ .halted := nofun
  rw [hdisable, call_enable_eq (by simp) (husb.refusesOut_eq.trans hopen), call_enable_eq hlive' rfl]
  exact {
    settings_eq := rfl
    board_eq := rfl
    transfer_eq := rfl
    staging := Buffer.alike_zero h.capacity_staging.symm
    events_eq := ⟨[], (List.append_nil _).symm, rfl⟩
    usb := ⟨husb.maxPacket_eq.symm, rfl, husb.pending_eq.symm,
      (husb.failNext_eq.trans hfail).symm, (husb.refusesOut_eq.trans hopen).symm⟩
    inbound_eq := rfl
    requested_eq := rfl
    lifecycle_eq := rfl }

/-! ### Frames between two sessions -/

/-- The world queues no frame in a controller that has none. -/
def Action.QueuesNone : Action → Prop
  | .call _ => True
  | .world usb _ => ∀ c, c.pending = none → (usb c).pending = none

/-- While no session is on, only the start of one does anything. -/
theorem call_of_ne_enabled {c : Call} (hlifecycle : d.lifecycle ≠ .enabled) (hc : c ≠ .enable) :
    d.call c = d := by
  cases c with
  | enable => exact absurd rfl hc
  | disable | received | sent => exact if_neg hlifecycle

/-- No call leaves a frame behind that is queued while no session is on. -/
theorem stray?_call (h : d.Sound none) (hstray : d.stray? = none) (c : Call) :
    (d.call c).stray? = none := by
  rw [stray?_eq_none_iff] at hstray ⊢
  intro hbound
  by_cases hc : c = .enable
  · rw [hc, call, enable] at hbound ⊢
    split_ifs at hbound ⊢
    · exact hstray hbound
    · cases hbound
  by_cases henabled : d.lifecycle = .enabled
  · cases c with
    | enable => exact absurd rfl hc
    | disable => rw [usb_call_disable henabled]
    | received status data =>
      have hreceived := (reception_receive h henabled status data).lifecycle_eq
      rw [lifecycle_call, take, if_pos henabled, hreceived, henabled] at hbound
      cases hbound
    | sent status actual =>
      rw [lifecycle_call, take, if_pos henabled] at hbound
      rcases (progression_proceed h status actual).lifecycle_eq with hkept | ⟨hhalted, -⟩
      · rw [hkept, henabled] at hbound
        cases hbound
      · rw [hhalted] at hbound
        cases hbound
  · rw [call_of_ne_enabled henabled hc] at hbound ⊢
    exact hstray hbound

/-- Where the world queues none, no frame is queued while no session is on. -/
theorem stray?_run (h : d.Sound none) (hstray : d.stray? = none) {actions : List Action}
    (hnone : ∀ a ∈ actions, a.QueuesNone) : (d.run actions).stray? = none := by
  induction actions generalizing d with
  | nil => exact hstray
  | cons a actions ih =>
    obtain ⟨ha, hactions⟩ := List.forall_mem_cons.mp hnone
    refine ih (h.act a) ?_ hactions
    cases a with
    | call c => exact stray?_call h hstray c
    | world usb board =>
      rw [stray?_eq_none_iff] at hstray ⊢
      exact fun hbound => ha d.usb (hstray hbound)

/-- **A new session is that of a new device.** However a device was used, and whatever it has staged, the
end of its session cancels the frame that it has queued; and from the start of the next session on it shows
what a device shows that was just bound with the same settings, packet size and board. A frame that is queued
while no session is on, in both controllers alike, was put there by others. -/
theorem watch_restart {settings : Settings} {usb : Controller} {board : Board}
    (hbind : bind settings usb board = .ok d) (before : List Action)
    (hlive : (d.run before).lifecycle ≠ .halted) (hfail : (d.run before).usb.failNext = false)
    (hopen : (d.run before).usb.refusesOut = false) :
    ((d.run before).lifecycle = .enabled →
      ((d.run before).call .disable).usb = { (d.run before).usb with
        pending := none
        cancelled := (d.run before).usb.cancelled +
          if (d.run before).usb.pending.isSome then 1 else 0 }) ∧
    (usb.pending = none → (∀ a ∈ before, a.QueuesNone) → (d.run before).stray? = none) ∧
    ∃ fresh, bind settings
        { maxPacket := (d.run before).usb.maxPacket, pending := (d.run before).stray? }
        (d.run before).board = .ok fresh ∧
      ∀ after, (∀ a ∈ after, a.Blind) →
        ((d.run before).call .disable).watch (.call .enable :: after) =
          fresh.watch (.call .enable :: after) := by
  have hstart := sound_of_bind hbind
  have hsound := hstart.run before
  obtain ⟨hvalid, hd⟩ := bind_eq_ok_iff.mp hbind
  have hsettings : (d.run before).settings = settings := by
    rw [hstart.settings_run before, hd]
    rfl
  have hrenewed : bind settings
      { maxPacket := (d.run before).usb.maxPacket, pending := (d.run before).stray? }
      (d.run before).board = .ok (d.run before).renewed :=
    bind_eq_ok_iff.mpr ⟨hvalid, by rw [renewed, hsettings]⟩
  refine ⟨usb_call_disable, fun hpending hnone => ?_,
    (d.run before).renewed, hrenewed, fun after hblind => ?_⟩
  · have husb : d.usb = usb := by rw [hd]
    exact stray?_run hstart (stray?_eq_none_iff.mpr fun _ => husb ▸ hpending) hnone
  have hstopped := hsound.call .disable
  have hnew := sound_of_bind hrenewed
  have halike := alike_restart hsound hlive hfail hopen
  -- the start itself queues no frame
  have hframe : (d.run before).renewed.frame? (.call .enable) =
      ((d.run before).call .disable).frame? (.call .enable) := by
    rw [hnew.frame?_call, hstopped.frame?_call]
    exact (ite_self none).trans (ite_self none).symm
  rw [watch, watch, sight_eq_of_alike halike hframe]
  exact congrArg _ (halike.watch_eq (hstopped.call .enable) (hnew.call .enable) hblind).symm

/-- A session in which four bytes were staged, and sent back as far as to the controller: the host has not
collected them. -/
def usedSession : List Action :=
  [.call .enable, .call (.received .completed "download:00000004".toUTF8),
    .world (·.completeIn.2) id, .call (.sent .completed 12),
    .call (.received .completed "abcd".toUTF8), .world (·.completeIn.2) id,
    .call (.sent .completed 4), .call (.received .completed "upload".toUTF8),
    .world (·.completeIn.2) id, .call (.sent .completed 12)]

/-- What the next host does: it collects what there is, asks for what the last one has staged, and then for a
variable, with a frame that is refused. -/
def nextSession : List Action :=
  [.world (·.completeIn.2) id, .world (·.takeOut.2) id,
    .call (.received .completed "upload".toUTF8), .world (·.completeIn.2) id,
    .call (.sent .completed 17), .world (·.failNextQueue) id,
    .call (.received .completed "getvar:version".toUTF8)]

/-- The bytes that were staged are still there, and they were still to be collected. The next host sees none
of them. -/
theorem watch_restart_used :
    (tiny.run usedSession).staging.byteAt 0 = 97 ∧
    (tiny.run usedSession).usb.pending = some "abcd".toUTF8 ∧
    ((tiny.run usedSession).call .disable).usb.pending = none ∧
    (tiny.run usedSession).stray? = none ∧
    ∃ fresh, bind tiny.settings { maxPacket := (tiny.run usedSession).usb.maxPacket }
        (tiny.run usedSession).board = .ok fresh ∧
      ((tiny.run usedSession).call .disable).watch (.call .enable :: nextSession) =
        fresh.watch (.call .enable :: nextSession) := by
  obtain ⟨hcancelled, hstray, fresh, hfresh, hwatch⟩ := watch_restart bind_tiny usedSession
    (by decide +kernel) (by decide +kernel) (by decide +kernel)
  have hnone : (tiny.run usedSession).stray? = none := by
    refine hstray rfl ?_
    simp only [usedSession, List.forall_mem_cons, Action.QueuesNone, Controller.pending_completeIn]
    simp
  rw [hnone] at hfresh
  refine ⟨by decide +kernel, by decide +kernel, ?_, hnone, fresh, hfresh, hwatch nextSession ?_⟩
  · rw [hcancelled (by decide +kernel)]
  · simp only [nextSession, List.forall_mem_cons, Action.Blind]
    exact ⟨fun _ _ h => h.completeIn, fun _ _ h => h.takeOut, trivial, fun _ _ h => h.completeIn,
      trivial, fun _ _ h => h.failNextQueue, trivial, nofun⟩

end Fastboot.Device
