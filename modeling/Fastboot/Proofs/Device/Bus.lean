import Fastboot.Proofs.Device.Link

/-!
# What happens on a bus

The driver of a controller reports the completion of a frame when the frame has gone out, and of no other.
`BusAction` lists what happens on a bus where it does: sessions start and end, transfers come in, frames go
out, and now and then the controller fails. Each is a few actions of a run (`exists_run_eq_turn`), and
`Device.play` lets a list of them happen to a device.
-/

namespace Fastboot.Device

/-- One thing that happens on a bus. -/
inductive BusAction where
  | enable
  | disable
  /-- A transfer comes in. -/
  | received (status : TransferStatus) (data : ByteArray)
  /-- The queued frame goes out, and `actual` bytes of it are reported. Nothing happens if there is none. -/
  | collected (status : TransferStatus) (actual : Nat)
  /-- From now on the next attempt to queue a frame fails. -/
  | failNext

/-- The device after something has happened on its bus. -/
def turn (d : Device) : BusAction → Device
  | .enable => d.call .enable
  | .disable => d.call .disable
  | .received status data => d.call (.received status data)
  | .collected status actual =>
    match d.usb.pending with
    | none => d
    | some _ => { d with usb := d.usb.completeIn.2 }.call (.sent status actual)
  | .failNext => { d with usb := d.usb.failNextQueue }

/-- The device after all of it has happened. -/
def play (d : Device) (actions : List BusAction) : Device :=
  actions.foldl turn d

@[simp]
theorem play_nil (d : Device) : d.play [] = d := rfl

@[simp]
theorem play_cons (d : Device) (a : BusAction) (actions : List BusAction) :
    d.play (a :: actions) = (d.turn a).play actions := rfl

@[simp]
theorem play_append (d : Device) (before after : List BusAction) :
    d.play (before ++ after) = (d.play before).play after :=
  List.foldl_append

variable {d d' : Device} {status : TransferStatus} {data frame : ByteArray} {actual : Nat}
  {offer : Option Offer} {o : Offer}

theorem turn_received (d : Device) (status : TransferStatus) (data : ByteArray) :
    d.turn (.received status data) = d.onOutComplete status data := rfl

/-- With no frame queued, none goes out. -/
theorem turn_collected_of_none (hpending : d.usb.pending = none) (status : TransferStatus)
    (actual : Nat) : d.turn (.collected status actual) = d := by
  simp only [turn, hpending]

theorem turn_collected_of_some (hpending : d.usb.pending = some frame) (status : TransferStatus)
    (actual : Nat) : d.turn (.collected status actual) =
      { d with usb := d.usb.completeIn.2 }.call (.sent status actual) := by
  simp only [turn, hpending]

/-- A host that collects the queued frame lets it go out whole. -/
theorem completeIn_eq_turn (hpending : d.usb.pending = some frame) :
    d.completeIn = (some frame, d.turn (.collected .completed frame.size)) := by
  rw [completeIn_of_some hpending, turn_collected_of_some hpending]
  rfl

/-! ### Runs -/

/-- Whatever happens on the bus, calls and the world outside the device make it up. -/
theorem exists_run_eq_turn (d : Device) (a : BusAction) :
    ∃ actions, d.turn a = d.run actions := by
  cases a with
  | enable => exact ⟨[.call .enable], rfl⟩
  | disable => exact ⟨[.call .disable], rfl⟩
  | received status data => exact ⟨[.call (.received status data)], rfl⟩
  | collected status actual =>
    cases hpending : d.usb.pending with
    | none => exact ⟨[], turn_collected_of_none hpending status actual⟩
    | some frame =>
      exact ⟨[.world (·.completeIn.2) id, .call (.sent status actual)],
        turn_collected_of_some hpending status actual⟩
  | failNext => exact ⟨[.world (·.failNextQueue) id], rfl⟩

theorem Sound.turn (h : d.Sound none) (a : BusAction) : (d.turn a).Sound none := by
  obtain ⟨actions, hturn⟩ := d.exists_run_eq_turn a
  rw [hturn]
  exact h.run actions

/-! ### Transfers and completions of an enabled device -/

/-- Only an enabled device has an answer to a transfer. -/
theorem enabled_of_offer? (hoffer : d.offer? (.received status data) = some o) :
    d.lifecycle = .enabled := by
  by_contra hne
  rw [offer?, take, if_neg hne] at hoffer
  cases hoffer

/-- A transfer that comes in is taken one of six ways, and its frame meets the controller. -/
theorem Sound.exists_reception (h : d.Sound none) (henabled : d.lifecycle = .enabled)
    (status : TransferStatus) (data : ByteArray) : ∃ d' offer, Reception d data status d' offer ∧
      d.offer? (.received status data) = offer ∧
      d.turn (.received status data) = (d'.hand offer).arm := by
  refine ⟨_, _, reception_receive h henabled status data, ?_,
    onOutComplete_of_enabled henabled status data⟩
  rw [offer?, take, if_pos henabled]

/-- A frame that goes out is followed by one of five things. -/
theorem Sound.exists_progression (h : d.Sound none) (henabled : d.lifecycle = .enabled)
    (hpending : d.usb.pending = some frame) (status : TransferStatus) (actual : Nat) :
    ∃ d' offer, Progression { d with usb := d.usb.completeIn.2 } actual status d' offer ∧
      d.turn (.collected status actual) = d'.hand offer := by
  have hlifecycle : ({ d with usb := d.usb.completeIn.2 } : Device).lifecycle = .enabled := henabled
  rw [turn_collected_of_some hpending]
  exact ⟨_, _, progression_proceed h.collect status actual,
    onInComplete_of_enabled hlifecycle status actual⟩

/-- A ready device takes every transfer, and is ready for the next. -/
theorem Ready.exists_reception (h : d.Ready none) (status : TransferStatus) (data : ByteArray) :
    ∃ d' offer, Reception d data status d' offer ∧ d.offer? (.received status data) = offer ∧
      d'.Handed offer (d.turn (.received status data)) ∧
      (d.turn (.received status data)).Ready none := by
  obtain ⟨d', offer, hr, hoffer, hturn⟩ := h.sound.exists_reception h.enabled status data
  have hready := h.of_reception hr
  refine ⟨d', offer, hr, hoffer, ?_, ?_⟩
  · rw [hturn]
    exact hready.handed.arm
  · rw [hturn]
    exact hready.hand.arm

/-- A ready device goes on when a frame has gone out that no action waits for. -/
theorem Ready.exists_progression (h : d.Ready none) (hpending : d.usb.pending = some frame)
    (hnext : ∀ action, d.transfer.next ≠ .exit action) (status : TransferStatus) (actual : Nat) :
    ∃ d' offer, Progression { d with usb := d.usb.completeIn.2 } actual status d' offer ∧
      d'.Handed offer (d.turn (.collected status actual)) ∧
      (d.turn (.collected status actual)).Ready none := by
  obtain ⟨d', offer, hp, hturn⟩ :=
    h.sound.exists_progression h.enabled hpending status actual
  have hcollect : ({ d with usb := d.usb.completeIn.2 } : Device).Ready none := {
    sound := h.sound.collect
    enabled := h.enabled
    failNext := d.usb.failNext_completeIn.trans h.failNext }
  have hready := hcollect.of_progression hp hnext
  rw [hturn]
  exact ⟨d', offer, hp, hready.handed, hready.hand⟩

/-- A frame that nothing follows makes no difference but to the controller. -/
theorem Ready.turn_of_done (h : d.Ready none) (hnext : d.transfer.next = .done)
    (status : TransferStatus) (actual : Nat) :
    (d.turn (.collected status actual)).Ready none ∧ ∃ usb inFlight,
      usb.queued = d.usb.queued ∧ d.turn (.collected status actual) =
        { d with usb, transfer := { d.transfer with inFlight } } := by
  cases hpending : d.usb.pending with
  | none =>
    rw [turn_collected_of_none hpending]
    exact ⟨h, d.usb, d.transfer.inFlight, rfl, rfl⟩
  | some frame =>
    obtain ⟨-, -, -, -, hready⟩ :=
      h.exists_progression hpending (by simp [hnext]) status actual
    obtain ⟨d', offer, hp, hturn⟩ :=
      h.sound.exists_progression h.enabled hpending status actual
    cases hp with
    | stop =>
      have hsettled : d.transfer.settled = { d.transfer with inFlight := false } := by
        rw [Transfer.settled, ← hnext]
      exact ⟨hready, d.usb.completeIn.2, false, d.usb.queued_completeIn,
        hturn.trans (congrArg (fun transfer => { d with usb := d.usb.completeIn.2, transfer })
          hsettled)⟩
    | broken _ _ hother => exact absurd (hnext.symm.trans hother) nofun
    | chunk _ _ hother => exact absurd (hnext.symm.trans hother) nofun
    | last _ hother => exact absurd (hnext.symm.trans hother) nofun
    | exit _ hother => exact absurd (hnext.symm.trans hother) nofun

/-- A live device stays live. -/
theorem Live.turn_collected {settings : Settings} (h : d.Live settings none)
    (hpending : d.usb.pending = some frame) (hnext : ∀ action, d.transfer.next ≠ .exit action)
    (status : TransferStatus) (actual : Nat) :
    (d.turn (.collected status actual)).Live settings none := by
  obtain ⟨d', offer, hp, hturn⟩ :=
    h.sound.exists_progression h.enabled hpending status actual
  rw [hturn]
  exact (h.collect.of_progression hp hnext).hand

end Fastboot.Device
