import Fastboot.Proofs.Device.Sound

/-!
# Runs of a device

A device is at work through four `Call`s, and between them the rest of the world goes on: the host and
the hardware change the controller, and anything may change the board. A run is a list of such `Action`s
in any order, with nothing assumed of what the world does.

`Taking` lists what a call can do, up to the frame that is handed over at its end. Soundness is kept by
each of its cases and so by every run (`Sound.run`), and with it that the counters are consistent
(`consistent_run`).
-/

namespace Fastboot.Device

/-- A call of a device by the driver of its controller. -/
inductive Call where
  | enable
  | disable
  /-- An incoming transfer has completed. -/
  | received (status : TransferStatus) (data : ByteArray)
  /-- The queued frame has completed. -/
  | sent (status : TransferStatus) (actual : Nat)

/-- The device after a call. -/
def call (d : Device) : Call → Device
  | .enable => d.enable.2
  | .disable => d.disable
  | .received status data => d.onOutComplete status data
  | .sent status actual => d.onInComplete status actual

/-- What a call makes of the device before its frame is handed over, and the frame. -/
def take (d : Device) : Call → Device × Option Offer
  | .enable => (d.enable.2, none)
  | .disable => (d.disable, none)
  | .received status data => if d.lifecycle = .enabled then d.receive status data else (d, none)
  | .sent status actual => if d.lifecycle = .enabled then d.proceed status actual else (d, none)

/-- The frame that a call offers to the controller. -/
def offer? (d : Device) (c : Call) : Option Offer :=
  (d.take c).2

/-- One thing that happens in a run. -/
inductive Action where
  | call (c : Call)
  /-- The world outside the device goes on. -/
  | world (usb : Controller → Controller) (board : Board → Board)

/-- A command that comes in. -/
def asks (command : String) : Action :=
  .call (.received .completed command.toUTF8)

/-- The device after an action. -/
def act (d : Device) : Action → Device
  | .call c => d.call c
  | .world usb board => { d with usb := usb d.usb, board := board d.board }

/-- The device after a run. -/
def run (d : Device) (actions : List Action) : Device :=
  actions.foldl act d

@[simp]
theorem run_nil (d : Device) : d.run [] = d := rfl

@[simp]
theorem run_cons (d : Device) (a : Action) (actions : List Action) :
    d.run (a :: actions) = (d.act a).run actions := rfl

@[simp]
theorem run_append (d : Device) (before after : List Action) :
    d.run (before ++ after) = (d.run before).run after :=
  List.foldl_append

/-! ### Calls -/

variable {d d' : Device} {c : Call} {offer : Option Offer}

/-- What a call can come to, up to the frame that it hands over. -/
inductive Taking (d : Device) : Call → Device → Option Offer → Prop where
  /-- A session starts or ends. -/
  | restart (c : Call) (usb : Controller) (inbound : Option Buffer) (requested : Nat)
      (lifecycle : Lifecycle) (hcall : c = .enable ∨ c = .disable)
      (hlive : d.lifecycle ≠ .halted)
      (hinbound : lifecycle = .enabled → inbound = some (.empty d.settings.bufferSize)) :
      Taking d c { d with usb, inbound, requested, lifecycle, transfer := {} } none
  /-- A device that is not enabled leaves the call alone. -/
  | ignored (c : Call) (hlifecycle : d.lifecycle ≠ .enabled) : Taking d c d none
  | received {status : TransferStatus} {data : ByteArray} {d' : Device} {offer : Option Offer}
      (henabled : d.lifecycle = .enabled) (h : Reception d data status d' offer) :
      Taking d (.received status data) d' offer
  | sent {status : TransferStatus} {actual : Nat} {d' : Device} {offer : Option Offer}
      (henabled : d.lifecycle = .enabled) (h : Progression d actual status d' offer) :
      Taking d (.sent status actual) d' offer

/-- There is nothing else that a call of a sound device can come to. -/
theorem taking_take (h : d.Sound none) (c : Call) : Taking d c (d.take c).1 (d.take c).2 := by
  cases c with
  | enable =>
    simp only [take, enable]
    split
    · exact .ignored _ (by simp [‹d.lifecycle = .halted›])
    · rename_i hlive
      exact .restart .enable _ _ _ .enabled (.inl rfl) hlive fun _ => rfl
  | disable =>
    simp only [take, disable]
    split
    · rename_i henabled
      exact .restart .disable _ _ _ .bound (.inr rfl) (by simp [henabled]) nofun
    · exact .ignored _ ‹_›
  | received status data =>
    simp only [take]
    split
    · exact .received ‹_› (reception_receive h ‹_› status data)
    · exact .ignored _ ‹_›
  | sent status actual =>
    simp only [take]
    split
    · exact .sent ‹_› (progression_proceed h status actual)
    · exact .ignored _ ‹_›

/-- Behind the frame that is handed over, a call has to do with the controller only. -/
theorem call_eq (d : Device) (c : Call) : ∃ usb requested,
    d.call c = { (d.take c).1.hand (d.take c).2 with usb, requested } := by
  cases c with
  | enable => exact ⟨_, _, rfl⟩
  | disable => exact ⟨_, _, rfl⟩
  | received status data =>
    simp only [call, take, onOutComplete]
    split
    · exact arm_eq _
    · exact ⟨_, _, rfl⟩
  | sent status actual =>
    simp only [call, take, onInComplete]
    split <;> exact ⟨_, _, rfl⟩

theorem toTarget_call (d : Device) (c : Call) :
    (d.call c).toTarget = ((d.take c).1.hand (d.take c).2).toTarget := by
  obtain ⟨_, _, h⟩ := d.call_eq c
  rw [h]

@[simp]
theorem settings_call (d : Device) (c : Call) : (d.call c).settings = (d.take c).1.settings := by
  rw [toTarget_call, settings_hand]

@[simp]
theorem board_call (d : Device) (c : Call) : (d.call c).board = (d.take c).1.board := by
  rw [toTarget_call, board_hand]

@[simp]
theorem lifecycle_call (d : Device) (c : Call) :
    (d.call c).lifecycle = (d.take c).1.lifecycle := by
  obtain ⟨_, _, h⟩ := d.call_eq c
  rw [h, lifecycle_hand]

/-- A device that has halted takes no call. -/
theorem call_of_halted (h : d.lifecycle = .halted) (c : Call) : d.call c = d := by
  cases c <;> simp [call, enable, disable, onOutComplete, onInComplete, h]

/-! ### Soundness -/

/-- Valid settings are all that a device needs. -/
theorem bind_eq_ok_iff {settings : Settings} {usb : Controller} {board : Board} :
    bind settings usb board = .ok d ↔
      settings.Valid ∧ d = { toTarget := .start settings board, usb } := by
  rw [← Settings.check_eq_ok_iff]
  unfold bind
  rcases settings.check with e | ⟨⟩ <;> simp [eq_comm]

theorem sound_of_bind {settings : Settings} {usb : Controller} {board : Board}
    (h : bind settings usb board = .ok d) : d.Sound none := by
  obtain ⟨hvalid, rfl⟩ := bind_eq_ok_iff.mp h
  exact {
    valid := hvalid
    capacity_staging := rfl
    inbound := nofun
    consistent := Transfer.consistent_default
    mode_eq := nofun
    idle_eq := nofun
    upcoming_eq := fun _ => rfl }

theorem Sound.of_taking (h : d.Sound none) (ht : Taking d c d' offer) : d'.Sound offer := by
  cases ht with
  | restart c usb inbound requested lifecycle hcall hlive hinbound =>
    exact {
      valid := h.valid
      capacity_staging := h.capacity_staging
      inbound := fun henabled => ⟨_, hinbound henabled, rfl⟩
      consistent := Transfer.consistent_default
      mode_eq := nofun
      idle_eq := nofun
      upcoming_eq := fun _ => rfl }
  | ignored => exact h
  | received henabled hr => exact h.of_reception henabled hr
  | sent henabled hp => exact h.of_progression henabled hp

theorem Sound.call (h : d.Sound none) (c : Call) : (d.call c).Sound none := by
  obtain ⟨usb, requested, hcall⟩ := d.call_eq c
  have hhand := (h.of_taking (taking_take h c)).hand
  rw [hcall]
  exact { hhand with }

/-- Each action keeps a device sound. -/
theorem Sound.act (h : d.Sound none) (a : Action) : (d.act a).Sound none := by
  cases a with
  | call c => exact h.call c
  | world usb board => exact { h with }

/-- A device stays sound over a run. -/
theorem Sound.run (h : d.Sound none) (actions : List Action) : (d.run actions).Sound none := by
  induction actions generalizing d with
  | nil => exact h
  | cons a actions ih => exact ih (h.act a)

/-! ### Consistent counters -/

theorem Taking.settings_eq (ht : Taking d c d' offer) : d'.settings = d.settings := by
  cases ht with
  | received _ hr => exact hr.settings_eq
  | sent _ hp => exact hp.settings_eq
  | _ => rfl

/-- The settings are those that the device was bound with. -/
theorem Sound.settings_run (h : d.Sound none) (actions : List Action) :
    (d.run actions).settings = d.settings := by
  induction actions generalizing d with
  | nil => rfl
  | cons a actions ih =>
    rw [run_cons, ih (h.act a)]
    cases a with
    | call c => exact (d.settings_call c).trans (taking_take h c).settings_eq
    | world => rfl

theorem Sound.consistent_after (h : d.Sound none) (actions : List Action) :
    (d.run actions).staging.capacity = d.settings.stagingCapacity ∧
      (d.run actions).transfer.Consistent d.settings.stagingCapacity := by
  have hrun := h.run actions
  rw [← h.settings_run actions]
  exact ⟨hrun.capacity_staging, hrun.consistent⟩

/-- **The counters stay consistent.** Valid settings have a device, and after every run of it the
counters are in step with the mode and within the staging buffer. -/
theorem consistent_run {settings : Settings} (hvalid : settings.Valid) (usb : Controller)
    (board : Board) : ∃ d, bind settings usb board = .ok d ∧
      ∀ actions, (d.run actions).staging.capacity = settings.stagingCapacity ∧
        (d.run actions).transfer.Consistent settings.stagingCapacity := by
  have hbind : bind settings usb board = .ok { toTarget := .start settings board, usb } :=
    bind_eq_ok_iff.mpr ⟨hvalid, rfl⟩
  exact ⟨_, hbind, (sound_of_bind hbind).consistent_after⟩

/-- The default settings are valid. -/
theorem consistent_run_default : ∃ d, bind {} {} {} = .ok d ∧
    ∀ actions, (d.run actions).staging.capacity = 0x8000000 ∧
      (d.run actions).transfer.Consistent 0x8000000 :=
  consistent_run Settings.valid_default {} {}

end Fastboot.Device
