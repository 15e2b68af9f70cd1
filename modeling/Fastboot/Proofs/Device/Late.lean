import Fastboot.Proofs.Device.DataPhase
import Fastboot.Proofs.Device.Exit

/-!
# Completions that are reported late

A controller may take its time to report that a frame has gone out, and transfers may come in meanwhile. A
`Wire` is a device over such a controller: a frame leaves the queue in one step (`Wire.Act.complete`) and is
reported in another (`Wire.Act.report`), each once and in order. Frames that are cancelled in the queue are
never reported.

A device keeps what a completion leads to without the frame that it belongs to. So an action that ends the
session runs at the first report after its acknowledgement was queued, whichever frame that is of.
`exits_follow` says when it is of the acknowledgement: for all that may follow, exactly if no report was
outstanding when the command came in.
-/

namespace Fastboot

/-- A device whose controller may report completions late. A frame is known by its number, which counts the
frames queued up to it. -/
structure Wire where
  device : Device
  /-- The frames that have gone out. -/
  gone : List Nat := []
  /-- The frames of these that are still to be reported, the oldest first. -/
  waiting : List Nat := []

namespace Wire

/-- One thing that happens on a wire. -/
inductive Act where
  | enable
  | disable
  /-- A transfer comes in. -/
  | received (status : TransferStatus) (data : ByteArray)
  /-- The queued frame goes out. Nothing happens if there is none. -/
  | complete
  /-- The oldest frame that waits for it is reported. Nothing happens if there is none. -/
  | report (status : TransferStatus) (actual : Nat)
  /-- From now on the next attempt to queue a frame fails. -/
  | failNext

/-- The wire after something has happened on it. -/
def step (w : Wire) : Act → Wire
  | .enable => { w with device := w.device.call .enable }
  | .disable => { w with device := w.device.call .disable }
  | .received status data => { w with device := w.device.call (.received status data) }
  | .complete =>
    match w.device.usb.pending with
    | none => w
    | some _ =>
      { device := { w.device with usb := w.device.usb.completeIn.2 }
        gone := w.gone ++ [w.device.usb.queued]
        waiting := w.waiting ++ [w.device.usb.queued] }
  | .report status actual =>
    match w.waiting with
    | [] => w
    | _ :: rest => { w with device := w.device.call (.sent status actual), waiting := rest }
  | .failNext => { w with device := { w.device with usb := w.device.usb.failNextQueue } }

/-- The wire after all of it has happened. -/
def follow (w : Wire) (acts : List Act) : Wire :=
  acts.foldl step w

@[simp]
theorem follow_nil (w : Wire) : w.follow [] = w := rfl

@[simp]
theorem follow_cons (w : Wire) (a : Act) (acts : List Act) :
    w.follow (a :: acts) = (w.step a).follow acts := rfl

@[simp]
theorem follow_append (w : Wire) (before after : List Act) :
    w.follow (before ++ after) = (w.follow before).follow after :=
  List.foldl_append

/-- An action that ends the session runs. -/
def Exits (w : Wire) (a : Act) : Prop :=
  (w.step a).device.board.platform.exits ≠ w.device.board.platform.exits

instance (w : Wire) (a : Act) : Decidable (w.Exits a) :=
  inferInstanceAs (Decidable (_ ≠ _))

/-- The last acknowledgement still stands: no other frame has been offered or reported. -/
inductive Stands (w : Wire) : Act → Prop where
  | received (status : TransferStatus) (data : ByteArray)
      (hoffer : w.device.offer? (.received status data) = none) : Stands w (.received status data)
  | complete : Stands w .complete
  | report (status : TransferStatus) (actual : Nat) (hwaiting : w.waiting = []) :
      Stands w (.report status actual)
  | failNext : Stands w .failNext

/-- The last acknowledgement stands throughout. -/
inductive StandingRun (w : Wire) : List Act → Prop where
  | nil : StandingRun w []
  | snoc (acts : List Act) (a : Act) (hrun : StandingRun w acts) (hstands : (w.follow acts).Stands a) :
      StandingRun w (acts ++ [a])

end Wire

namespace Device

variable {d : Device} {c : Call} {action : Exit}

/-- Only an incoming transfer makes the next completion lead to an action. -/
theorem Sound.next_call_ne (h : d.Sound none) (hc : ∀ status data, c ≠ .received status data) :
    (d.call c).transfer.next ≠ .exit action := by
  intro hnext
  rcases h.next_call hnext with hask | ⟨-, hquiet⟩
  · obtain ⟨data, -, -, hreceived, -⟩ := hask.command
    exact hc _ _ hreceived
  · cases hquiet with
    | received status data => exact hc status data rfl

/-- An acknowledgement is queued, and the next completion leads to its action. -/
theorem Sound.acknowledged (h : d.Sound none) (hask : d.Acknowledges c action) :
    (d.call c).transfer.next = .exit action ∧ (d.call c).lifecycle = .enabled ∧
      (d.call c).usb.queued = d.usb.queued + 1 := by
  have htake : (d.take c).2 = some (.reply (.exit action)) := hask.offer
  have hfail : d.usb.failNext = false := by
    have haccepted : d.Accepts (.reply (.exit action)) := by
      rw [Accepts, Offer.frame, Reply.fitted_exit]
      exact hask.accepted
    exact accepts_iff_failNext.mp haccepted
  obtain ⟨data, -, -, rfl, -⟩ := hask.command
  obtain ⟨d', offer, hr, hoffer, hcall⟩ := h.exists_reception hask.enabled .completed data
  obtain rfl := hoffer.symm.trans hask.offer
  have haccepts : d'.Accepts (.reply (.exit action)) := by
    rw [accepts_iff_failNext, hr.usb_eq, hfail]
  rw [turn_received] at hcall
  refine ⟨?_, ?_, ?_⟩
  · rw [Device.call, hcall, toTarget_arm, transfer_hand_some, if_pos haccepts, Transfer.next_accepted,
      Offer.next_exit]
  · rw [Device.call, hcall, lifecycle_arm, lifecycle_hand, hr.lifecycle_eq, hask.enabled]
  · rw [h.queued_call, hask.offer, hfail]
    rfl

theorem Sound.queued_le_call (h : d.Sound none) (c : Call) :
    d.usb.queued ≤ (d.call c).usb.queued := by
  rw [h.queued_call]
  exact Nat.le_add_right _ _

end Device

namespace Wire

variable {w : Wire} {a : Act} {action : Exit} {n : Nat}

/-! ### Wires in order -/

/-- A sound device on a wire where no frame has gone out that was not queued before. -/
structure Orderly (w : Wire) : Prop where
  sound : w.device.Sound none
  gone_le : ∀ k ∈ w.gone, k ≤ w.device.usb.queued

theorem Orderly.call (h : w.Orderly) (c : Device.Call) (waiting : List Nat) :
    { w with device := w.device.call c, waiting }.Orderly where
  sound := h.sound.call c
  gone_le k hk := (h.gone_le k hk).trans (h.sound.queued_le_call c)

theorem Orderly.step (h : w.Orderly) (a : Act) : (w.step a).Orderly := by
  rcases a with _ | _ | ⟨status, data⟩ | _ | ⟨status, actual⟩ | _
  · exact h.call .enable w.waiting
  · exact h.call .disable w.waiting
  · exact h.call (.received status data) w.waiting
  · rw [Wire.step]
    rcases w.device.usb.pending with _ | frame
    · exact h
    · refine ⟨{ h.sound with }, fun k hk => ?_⟩
      have hqueued := w.device.usb.queued_completeIn
      rcases List.mem_append.mp hk with hgone | hlast
      · exact (h.gone_le k hgone).trans (Nat.le_of_eq hqueued.symm)
      · rw [List.mem_singleton.mp hlast]
        exact Nat.le_of_eq hqueued.symm
  · rw [Wire.step]
    rcases w.waiting with _ | ⟨_, rest⟩
    · exact h
    · exact h.call (.sent status actual) rest
  · exact ⟨{ h.sound with }, h.gone_le⟩

theorem Orderly.follow (h : w.Orderly) (acts : List Act) : (w.follow acts).Orderly := by
  induction acts generalizing w with
  | nil => exact h
  | cons a acts ih => exact ih (h.step a)

/-! ### When an action runs -/

/-- An action runs when a completion is reported that leads to it, whichever frame it is of. -/
theorem Orderly.exits_iff (h : w.Orderly) : w.Exits a ↔ ∃ actual action,
    a = .report .completed actual ∧ w.waiting ≠ [] ∧ w.device.lifecycle = .enabled ∧
      w.device.transfer.next = .exit action := by
  have hcall : ∀ c, w.device.Exits c ↔ ∃ actual action, c = .sent .completed actual ∧
      w.device.lifecycle = .enabled ∧ w.device.transfer.next = .exit action := fun _ =>
    h.sound.exits_iff
  rw [Exits, Wire.step.eq_def]
  rcases a with _ | _ | ⟨status, data⟩ | _ | ⟨status, actual⟩ | _
  · exact (hcall .enable).trans (by simp)
  · exact (hcall .disable).trans (by simp)
  · exact (hcall (.received status data)).trans (by simp)
  · rcases w.device.usb.pending with _ | frame
    · simp
    · simp
  · rcases w.waiting with _ | ⟨_, rest⟩
    · simp
    · exact (hcall (.sent status actual)).trans (by simp)
  · simp

/-- What the next report leads to, a command has acknowledged that came in last or before all that left its
acknowledgement standing. -/
theorem Orderly.next_step (h : w.Orderly) (hnext : (w.step a).device.transfer.next = .exit action) :
    (∃ data, a = .received .completed data ∧
        w.device.Acknowledges (.received .completed data) action) ∨
      w.device.transfer.next = .exit action ∧ w.Stands a := by
  rcases a with _ | _ | ⟨status, data⟩ | _ | ⟨status, actual⟩ | _
  · exact absurd hnext (h.sound.next_call_ne nofun)
  · exact absurd hnext (h.sound.next_call_ne nofun)
  · rcases h.sound.next_call hnext with hask | ⟨hbefore, hquiet⟩
    · obtain ⟨data', -, -, hreceived, -⟩ := hask.command
      cases hreceived
      exact .inl ⟨data, rfl, hask⟩
    · cases hquiet with
      | received _ _ hoffer => exact .inr ⟨hbefore, .received status data hoffer⟩
  · rw [Wire.step] at hnext
    rcases hpending : w.device.usb.pending with _ | frame
    · rw [hpending] at hnext
      exact .inr ⟨hnext, .complete⟩
    · rw [hpending] at hnext
      exact .inr ⟨hnext, .complete⟩
  · rw [Wire.step] at hnext
    rcases hwaiting : w.waiting with _ | ⟨_, rest⟩
    · rw [hwaiting] at hnext
      exact .inr ⟨hnext, .report status actual hwaiting⟩
    · rw [hwaiting] at hnext
      exact absurd hnext (h.sound.next_call_ne nofun)
  · exact .inr ⟨hnext, .failNext⟩

/-- An action that the next report leads to has been acknowledged, and its acknowledgement has stood since. -/
theorem Orderly.exists_acknowledges (h : w.Orderly) (hstart : w.device.transfer.next = .done)
    (acts : List Act) (hnext : (w.follow acts).device.transfer.next = .exit action) :
    ∃ asked data since, acts = asked ++ .received .completed data :: since ∧
      (w.follow asked).device.Acknowledges (.received .completed data) action ∧
      ((w.follow asked).step (.received .completed data)).StandingRun since := by
  induction acts using List.reverseRecOn with
  | nil => exact absurd (hstart.symm.trans hnext) nofun
  | append_singleton acts a ih =>
    rw [follow_append] at hnext
    rcases (h.follow acts).next_step hnext with ⟨data, rfl, hask⟩ | ⟨hbefore, hstands⟩
    · exact ⟨acts, data, [], rfl, hask, .nil⟩
    · obtain ⟨asked, data, since, rfl, hask, hsince⟩ := ih hbefore
      refine ⟨asked, data, since ++ [a], by simp, hask, .snoc since a hsince ?_⟩
      rw [follow_append, follow_cons] at hstands
      exact hstands

/-! ### Which frame is reported -/

/-- No other frame than the last one that was queued is still to be reported. -/
structure Alone (w : Wire) (n : Nat) : Prop where
  queued_eq : w.device.usb.queued = n
  waiting_eq : ∀ k ∈ w.waiting, k = n ∧ k ∈ w.gone

theorem Alone.step (h : w.Alone n) (hw : w.Orderly) (hstands : w.Stands a) : (w.step a).Alone n := by
  cases hstands with
  | failNext => exact ⟨h.queued_eq, h.waiting_eq⟩
  | report status actual hwaiting =>
    simp only [Wire.step, hwaiting]
    exact h
  | received status data hoffer =>
    refine ⟨?_, h.waiting_eq⟩
    show (w.device.call (.received status data)).usb.queued = n
    rw [hw.sound.queued_call, hoffer]
    exact h.queued_eq
  | complete =>
    rw [Wire.step]
    rcases w.device.usb.pending with _ | frame
    · exact h
    · refine ⟨w.device.usb.queued_completeIn.trans h.queued_eq, fun k hk => ?_⟩
      rcases List.mem_append.mp hk with hwaiting | hlast
      · obtain ⟨hk, hgone⟩ := h.waiting_eq k hwaiting
        exact ⟨hk, List.mem_append_left _ hgone⟩
      · exact ⟨(List.mem_singleton.mp hlast).trans h.queued_eq, List.mem_append_right _ hlast⟩

theorem Alone.follow (h : w.Alone n) (hw : w.Orderly) {acts : List Act}
    (hrun : w.StandingRun acts) : (w.follow acts).Alone n := by
  induction hrun with
  | nil => exact h
  | snoc acts a _ hstands ih =>
    rw [follow_append]
    exact ih.step (hw.follow acts) hstands

/-- **When an action waits for its own acknowledgement.** Once a command has been acknowledged, whatever
happens then while the acknowledgement stands, its action runs only after that frame has gone out: exactly if
no report was outstanding when the command came in. -/
theorem Orderly.gone_iff (h : w.Orderly) {data : ByteArray}
    (hask : w.device.Acknowledges (.received .completed data) action) :
    (∀ since a, (w.step (.received .completed data)).StandingRun since →
      ((w.step (.received .completed data)).follow since).Exits a →
      (w.step (.received .completed data)).device.usb.queued ∈
        ((w.step (.received .completed data)).follow since).gone) ↔ w.waiting = [] := by
  obtain ⟨hnext, henabled, hqueued⟩ := h.sound.acknowledged hask
  have hstep := h.step (.received .completed data)
  constructor
  · intro hgone
    by_contra hwaiting
    -- the report that is outstanding is taken for the one of the acknowledgement
    have hexits : (w.step (.received .completed data)).Exits (.report .completed 0) :=
      hstep.exits_iff.mpr ⟨0, action, rfl, hwaiting, henabled, hnext⟩
    have hle := h.gone_le _ (hgone [] (.report .completed 0) .nil hexits)
    rw [Wire.step, hqueued] at hle
    exact absurd hle (Nat.not_succ_le_self _)
  · intro hwaiting since a hrun hexits
    have halone : (w.step (.received .completed data)).Alone
        (w.step (.received .completed data)).device.usb.queued := by
      refine ⟨rfl, fun k hk => ?_⟩
      rw [show (w.step (.received .completed data)).waiting = [] from hwaiting] at hk
      cases hk
    obtain ⟨-, -, -, hne, -⟩ := (hstep.follow since).exits_iff.mp hexits
    obtain ⟨k, hk⟩ := List.exists_mem_of_ne_nil _ hne
    obtain ⟨rfl, hkgone⟩ := (halone.follow hstep hrun).waiting_eq k hk
    exact hkgone

end Wire

namespace Device

variable {d : Device}

/-- The wire of a device whose controller has nothing to report. -/
def wire (d : Device) : Wire where
  device := d

/-- **Late reports.** On a wire, an action that ends the session runs when a completion is reported, on behalf
of the last command that was acknowledged; nothing else has been offered or reported since. That its own
acknowledgement has gone out by then is certain exactly if no completion was still to be reported when the
command came in. -/
theorem exits_follow {settings : Settings} {usb : Controller} {board : Board}
    (hbind : bind settings usb board = .ok d) :
    (∀ before a, (d.wire.follow before).Exits a → ∃ actual action asked data since,
      a = .report .completed actual ∧
      ((d.wire.follow before).step a).device = (d.wire.follow before).device.settle.runExit action ∧
      before = asked ++ .received .completed data :: since ∧
      (d.wire.follow asked).device.Acknowledges (.received .completed data) action ∧
      ((d.wire.follow asked).step (.received .completed data)).StandingRun since) ∧
    ∀ asked data action,
      (d.wire.follow asked).device.Acknowledges (.received .completed data) action →
      let answered := (d.wire.follow asked).step (.received .completed data)
      ((∀ since a, answered.StandingRun since → (answered.follow since).Exits a →
          answered.device.usb.queued ∈ (answered.follow since).gone) ↔
        (d.wire.follow asked).waiting = []) := by
  have horderly : d.wire.Orderly := ⟨sound_of_bind hbind, nofun⟩
  have hstart : d.wire.device.transfer.next = .done := by
    obtain ⟨-, rfl⟩ := bind_eq_ok_iff.mp hbind
    rfl
  refine ⟨fun before a hexits => ?_, fun asked data action hask =>
    (horderly.follow asked).gone_iff hask⟩
  obtain ⟨actual, action, rfl, hwaiting, henabled, hnext⟩ :=
    (horderly.follow before).exits_iff.mp hexits
  obtain ⟨asked, data, since, hbefore, hask, hsince⟩ :=
    horderly.exists_acknowledges hstart before hnext
  refine ⟨actual, action, asked, data, since, rfl, ?_, hbefore, hask, hsince⟩
  obtain ⟨_, rest, hreports⟩ := List.exists_cons_of_ne_nil hwaiting
  simp only [Wire.step, hreports]
  exact call_exit henabled hnext actual

/-- A reset that is asked for while nothing is outstanding, and runs when its acknowledgement is reported. -/
theorem exits_follow_reboot :
    let answered := tiny.wire.follow [.enable, .received .completed "reboot".toUTF8]
    (answered.follow [.complete]).Exits (.report .completed 4) ∧
      answered.device.usb.queued ∈ (answered.follow [.complete]).gone := by
  intro answered
  have hask : (tiny.wire.follow [.enable]).device.Acknowledges
      (.received .completed "reboot".toUTF8) .reset := {
    enabled := by decide +kernel
    command := ⟨_, "reboot", .reboot, rfl, by decide +kernel, by decide +kernel, by decide +kernel,
      by decide +kernel, rfl⟩
    offer := by decide +kernel
    accepted := by decide +kernel }
  have hexits : (answered.follow [.complete]).Exits (.report .completed 4) := by
    decide +kernel
  have hgone := ((exits_follow bind_tiny).2 [.enable] _ .reset hask).mpr rfl
  exact ⟨hexits, hgone [.complete] _ (.snoc [] .complete .nil .complete) hexits⟩

/-- **A reset before its acknowledgement.** The report of an answer that went out before `reboot` came in runs
the reset, with the acknowledgement still queued. -/
theorem exits_follow_late :
    let late := tiny.wire.follow [.enable, .received .completed "getvar:version".toUTF8, .complete,
      .received .completed "reboot".toUTF8]
    late.waiting = [1] ∧ late.device.usb.queued = 2 ∧ late.Exits (.report .completed 7) ∧
      (late.step (.report .completed 7)).gone = [1] ∧
      (late.step (.report .completed 7)).device.usb.pending = some "OKAY".toUTF8 ∧
      (late.step (.report .completed 7)).device.board.platform.actions = [.reset] := by
  decide +kernel

end Device

end Fastboot
