import Fastboot.Proofs.Device.Run
import Mathlib.Data.List.Induction

/-!
# Actions that end a session

A reset, a boot and leaving the bus cannot be taken back, and the host must have its acknowledgement
before. A device therefore only notes the action when it answers the command, and runs it when the
answer has gone out.

* `exits_iff`: the platform is asked for such an action by the completion of a frame that leads to it,
  and by nothing else.
* `next_call`: what a frame leads to is an action only while the last frame that was offered is its
  acknowledgement.
* `exit_run` puts the two together for a whole run.
-/

namespace Fastboot

namespace Command

variable {command : String} {t t' : Target} {reply : Reply}

/-- Whatever a command asks of the platform, it is nothing that ends the session. -/
theorem Outcome.exits_eq (h : Outcome command t reply t') :
    t'.board.platform.exits = t.board.platform.exits := by
  cases h with
  | answer _ _ _ _ _ _ hplatform => exact hplatform
  | exit _ _ _ _ _ hplatform => exact hplatform
  | download => simp [dropData]
  | upload => simp
  | _ => rfl

end Command

namespace Device

variable {d d' : Device} {c : Call} {offer : Option Offer} {action : Exit}

/-- A call asks the platform for an action that ends the session. -/
def Exits (d : Device) (c : Call) : Prop :=
  (d.call c).board.platform.exits ≠ d.board.platform.exits

instance (d : Device) (c : Call) : Decidable (d.Exits c) :=
  inferInstanceAs (Decidable (_ ≠ _))

/-- A call takes a command that asks for an action, and the controller accepts the acknowledgement. -/
structure Acknowledges (d : Device) (c : Call) (action : Exit) : Prop where
  enabled : d.lifecycle = .enabled
  command : ∃ data text verb, c = .received .completed data ∧ d.transfer.mode ≠ .downloading ∧
    data.size < d.settings.bufferSize ∧ commandText? data = some text ∧
    Command.Verb.ofCommand? text = some verb ∧ verb.exit? = some action
  offer : d.offer? c = some (.reply (.exit action))
  accepted : (d.usb.replaceIn "OKAY".toUTF8).1 = .ok ()

/-- An action of a run after which the last acknowledgement still stands: the world goes on, or a
transfer is taken that the device has no frame for. -/
inductive Quiet (d : Device) : Action → Prop where
  | world (usb : Controller → Controller) (board : Board → Board) : Quiet d (.world usb board)
  | received (status : TransferStatus) (data : ByteArray)
      (hoffer : d.offer? (.received status data) = none) :
      Quiet d (.call (.received status data))

/-- A run of quiet actions. -/
inductive QuietRun (d : Device) : List Action → Prop where
  | nil : QuietRun d []
  | snoc (actions : List Action) (a : Action) (hrun : QuietRun d actions)
      (hquiet : (d.run actions).Quiet a) : QuietRun d (actions ++ [a])

/-! ### The step -/

/-- The completion that an action follows runs it, and does nothing else. -/
theorem call_exit (henabled : d.lifecycle = .enabled) (hnext : d.transfer.next = .exit action)
    (actual : Nat) :
    d.call (.sent .completed actual) = d.settle.runExit action := by
  simp only [call, onInComplete, if_pos henabled, proceed, hnext]
  rfl

theorem exits_runExit_ne (d : Device) (action : Exit) :
    (d.runExit action).board.platform.exits ≠ d.board.platform.exits := by
  cases action <;> simp [runExit, onTarget]

theorem Reception.exits_eq {data : ByteArray} {status : TransferStatus}
    (hr : Reception d data status d' offer) :
    d'.board.platform.exits = d.board.platform.exits := by
  cases hr with
  | command text reply target events _ _ _ hrun =>
    have houtcome := Command.outcome_dispatch text
      { d.toTarget with transfer := d.transfer.interrupted, events }
    rw [hrun] at houtcome
    exact houtcome.exits_eq
  | _ => rfl

/-- A call asks for an action as the completion of the frame that leads to it, or not at all. -/
theorem Taking.exits_eq (ht : Taking d c d' offer) :
    d'.board.platform.exits = d.board.platform.exits ∨ ∃ actual action,
      c = .sent .completed actual ∧ d.lifecycle = .enabled ∧ d.transfer.next = .exit action ∧
        d' = d.settle.runExit action ∧ offer = none := by
  cases ht with
  | restart => exact .inl rfl
  | ignored => exact .inl rfl
  | received _ hr => exact .inl hr.exits_eq
  | @sent _ actual _ _ henabled hp =>
    cases hp with
    | exit action hnext => exact .inr ⟨actual, action, rfl, henabled, hnext, rfl, rfl⟩
    | _ => exact .inl rfl

/-- **When an action runs.** It is what the completion of a frame leads to that got through. -/
theorem Sound.exits_iff (h : d.Sound none) : d.Exits c ↔ ∃ actual action,
    c = .sent .completed actual ∧ d.lifecycle = .enabled ∧ d.transfer.next = .exit action := by
  constructor
  · intro hexits
    rw [Exits, board_call] at hexits
    rcases (taking_take h c).exits_eq with hsame | ⟨actual, action, hc, henabled, hnext, -⟩
    · exact absurd hsame hexits
    · exact ⟨actual, action, hc, henabled, hnext⟩
  · rintro ⟨actual, action, rfl, henabled, hnext⟩
    rw [Exits, call_exit henabled hnext]
    exact exits_runExit_ne d.settle action

theorem Sound.of_upcoming (h : d.Sound none) (ht : Taking d c d' offer)
    (hoffer : d.offer? c = offer) (haccepts : ∀ o, offer = some o → d'.Accepts o)
    (hupcoming : d'.upcoming offer = .exit action) :
    d.Acknowledges c action ∨ d.transfer.next = .exit action ∧ d.Quiet (.call c) := by
  cases ht with
  | restart => cases hupcoming
  | ignored _ hlifecycle => exact absurd ((h.upcoming_eq hlifecycle).symm.trans hupcoming) nofun
  | received henabled hr =>
    cases hr with
    | lost => exact .inr ⟨hupcoming, .received _ _ hoffer⟩
    | partly => exact .inr ⟨hupcoming, .received _ _ hoffer⟩
    | refused => simp [upcoming_some] at hupcoming
    | broken => simp [upcoming_some] at hupcoming
    | last => simp [upcoming_some] at hupcoming
    | command text reply target events hmode hsize htext hrun =>
      have houtcome := Command.outcome_dispatch text
        { d.toTarget with transfer := d.transfer.interrupted, events }
      rw [hrun] at houtcome
      obtain ⟨rfl, -, verb, hverb, haction⟩ := houtcome.exit_of_next hupcoming
      -- an acknowledgement fits a frame, so it goes out as it is
      have haccepted := haccepts _ rfl
      rw [Accepts, Offer.frame, Reply.fitted_exit] at haccepted
      exact .inl {
        enabled := henabled
        command := ⟨_, text, verb, rfl, hmode, hsize, htext, hverb, haction⟩
        offer := hoffer
        accepted := haccepted }
  | sent _ hp =>
    cases hp with
    | stop => cases hupcoming
    | exit => cases hupcoming
    | _ => simp [upcoming_some] at hupcoming

/-- **What leads to an action.** After a call, the next completion leads to an action if the call has
acknowledged it, or if it did so before and the call was quiet. -/
theorem Sound.next_call (h : d.Sound none) (hnext : (d.call c).transfer.next = .exit action) :
    d.Acknowledges c action ∨ d.transfer.next = .exit action ∧ d.Quiet (.call c) := by
  rw [toTarget_call] at hnext
  obtain ⟨haccepts, hupcoming, -⟩ := upcoming_of_next_hand hnext nofun
  exact h.of_upcoming (taking_take h c) rfl haccepts hupcoming

/-! ### The run -/

/-- An action that the next completion leads to was due from the start, and all has been quiet, or it has
been acknowledged in the run, and all has been quiet since. -/
theorem Sound.next_run (h : d.Sound none) (actions : List Action)
    (hnext : (d.run actions).transfer.next = .exit action) :
    (d.transfer.next = .exit action ∧ d.QuietRun actions) ∨
      ∃ asked c since, actions = asked ++ .call c :: since ∧
        (d.run asked).Acknowledges c action ∧ ((d.run asked).call c).QuietRun since := by
  induction actions using List.reverseRecOn with
  | nil => exact .inl ⟨hnext, .nil⟩
  | append_singleton actions a ih =>
    -- the last action has either acknowledged it or was quiet itself
    have hlast : (∃ c, a = .call c ∧ (d.run actions).Acknowledges c action) ∨
        (d.run actions).transfer.next = .exit action ∧ (d.run actions).Quiet a := by
      rw [run_append] at hnext
      cases a with
      | call c => exact ((h.run actions).next_call hnext).imp_left fun hc => ⟨c, rfl, hc⟩
      | world usb board => exact .inr ⟨hnext, .world usb board⟩
    rcases hlast with ⟨c, rfl, hc⟩ | ⟨hbefore, hquiet⟩
    · exact .inr ⟨actions, c, [], rfl, hc, .nil⟩
    · rcases ih hbefore with ⟨hstart, hrun⟩ | ⟨asked, c, since, rfl, hc, hsince⟩
      · exact .inl ⟨hstart, .snoc actions a hrun hquiet⟩
      · refine .inr ⟨asked, c, since ++ [a], by simp, hc, .snoc since a hsince ?_⟩
        rw [run_append, run_cons] at hquiet
        exact hquiet

/-- Where none was due from the start, an action that the next completion leads to has been acknowledged. -/
theorem Sound.exists_acknowledges (h : d.Sound none) (hstart : d.transfer.next = .done)
    (actions : List Action) (hnext : (d.run actions).transfer.next = .exit action) :
    ∃ asked c since, actions = asked ++ .call c :: since ∧
      (d.run asked).Acknowledges c action ∧ ((d.run asked).call c).QuietRun since :=
  (h.next_run actions hnext).resolve_left fun hdue => nomatch hstart.symm.trans hdue.1

/-- A device that has halted stays as it is, whatever becomes of its controller and its board. -/
theorem lifecycle_run_of_halted (h : d.lifecycle = .halted) (actions : List Action) :
    (d.run actions).lifecycle = .halted := by
  induction actions generalizing d with
  | nil => exact h
  | cons a actions ih =>
    refine ih ?_
    cases a with
    | call c => exact (congrArg lifecycle (call_of_halted h c)).trans h
    | world => exact h

/-- **Actions that end a session are safe.** In any run of a device, a call that asks the platform for
such an action is the completion of a frame that got through, on an enabled device. The last frame that
the controller took from the device was the acknowledgement of that action, in answer to a command that
asked for it, and no frame has been offered and none has completed since. No call after it changes
anything. -/
theorem exit_run {settings : Settings} {usb : Controller} {board : Board}
    (hbind : bind settings usb board = .ok d) (before : List Action)
    (hexits : (d.run before).Exits c) :
    ∃ actual action asked ask since,
      c = .sent .completed actual ∧ (d.run before).lifecycle = .enabled ∧
      (d.run before).call c = (d.run before).settle.runExit action ∧
      before = asked ++ .call ask :: since ∧
      (d.run asked).Acknowledges ask action ∧ ((d.run asked).call ask).QuietRun since ∧
      ∀ after c', ¬ (d.run (before ++ .call c :: after)).Exits c' ∧
        (d.run (before ++ .call c :: after)).call c' = d.run (before ++ .call c :: after) := by
  have hsound := sound_of_bind hbind
  have hstart : d.transfer.next = .done := hsound.upcoming_eq (by
    obtain ⟨-, rfl⟩ := bind_eq_ok_iff.mp hbind
    nofun)
  obtain ⟨actual, action, rfl, henabled, hnext⟩ := (hsound.run before).exits_iff.mp hexits
  obtain ⟨asked, ask, since, hbefore, hask, hsince⟩ :=
    hsound.exists_acknowledges hstart before hnext
  have hcall := call_exit henabled hnext actual
  refine ⟨actual, action, asked, ask, since, rfl, henabled, hcall, hbefore, hask, hsince,
    fun after c' => ?_⟩
  -- the action halts the device, and a device that has halted stays so
  have hhalted : (d.run (before ++ .call (.sent .completed actual) :: after)).lifecycle =
      .halted := by
    rw [run_append, run_cons, act, hcall]
    exact lifecycle_run_of_halted rfl after
  have hsame := call_of_halted hhalted c'
  exact ⟨fun hexits => hexits (by rw [hsame]), hsame⟩

/-- A reset that was asked for by the first command of a session. -/
theorem exit_run_reboot : ∃ d, bind {} {} {} = .ok d ∧
    (d.run [.call .enable, .call (.received .completed "reboot".toUTF8)]).Exits
      (.sent .completed 4) ∧
    ∃ asked ask since action,
      [.call .enable, .call (.received .completed "reboot".toUTF8)] =
        asked ++ Action.call ask :: since ∧ (d.run asked).Acknowledges ask action := by
  have hbind : bind {} {} {} = .ok { toTarget := .start {} {}, usb := {} } :=
    bind_eq_ok_iff.mpr ⟨Settings.valid_default, rfl⟩
  have hexits : (run { toTarget := .start {} {}, usb := {} }
      [.call .enable, .call (.received .completed "reboot".toUTF8)]).Exits
        (.sent .completed 4) := by
    decide +kernel
  obtain ⟨_, action, asked, ask, since, _, _, _, hbefore, hask, _⟩ := exit_run hbind _ hexits
  exact ⟨_, hbind, hexits, asked, ask, since, action, hbefore, hask⟩

end Device

end Fastboot
