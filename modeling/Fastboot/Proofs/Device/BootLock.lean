import Fastboot.Proofs.Command.BootLock
import Fastboot.Proofs.Device.Board
import Mathlib.Data.List.Induction

/-!
# The boot lock over a run

To unlock verified boot can be disabled, and a device then refuses to unlock it. It does not refuse to
lock it, which is another state of the same lock: with that the disabling is forgotten, and the lock can
be unlocked again.

`d.grants actions` lists the states that commands have asked for and been granted in a run. The last of
them is the state of the lock (`Sound.bootLock?_run`). `unlocked_run_iff` says what it takes to unlock a
lock that was disabled, and `unlocked_run` is a run that does it.
-/

namespace Fastboot.Device

open Board (Relocks relocks_none)

variable {d d' : Device} {c : Call} {a : Action} {actions : List Action} {offer : Option Offer}
  {b : Board}

/-- The state of the boot lock that a call has asked for and been granted, as the frame that was offered
for it tells. -/
def granted? (d : Device) (c : Call) (offer : Option Offer) : Option BootLock :=
  match c, offer with
  | .received .completed data, some (.reply reply) =>
    if d.transfer.mode = .downloading then none
    else (commandText? data).bind (Command.granted? · reply)
  | _, _ => none

/-- The state that an action of a run was granted. -/
def grant? (d : Device) : Action → Option BootLock
  | .call c => d.granted? c (d.offer? c)
  | .world _ _ => none

/-- The states that were granted in a run, the first one first. -/
def grants (d : Device) : List Action → List BootLock
  | [] => []
  | a :: actions => (d.grant? a).toList ++ (d.act a).grants actions

/-- The world outside the device may do to its board what it likes, but for the state of the boot lock. -/
def Action.KeepsBootLock : Action → Prop
  | .call _ => True
  | .world _ board => ∀ b, (board b).bootLock? = b.bootLock?

/-! ### The step -/

/-- A call sets the lock as it was granted, or leaves it alone. -/
theorem Deed.relocks (h : Deed d c offer b) : Relocks (d.granted? c offer) d.board b := by
  cases h with
  | command hmode htext hboard h =>
    rw [granted?, if_neg hmode, htext, Option.bind_some, ← hboard]
    exact h.relocks
  | other hoffer =>
    have hnone : d.granted? c offer = none := by
      unfold granted?
      split
      · rcases hoffer _ _ rfl rfl with hmode | ⟨fault, rfl⟩
        · exact if_pos hmode
        · simp
      · rfl
    rw [hnone]
    exact relocks_none rfl

/-- An action sets the lock as it was granted, or leaves it alone. -/
theorem Sound.relocks_act (h : d.Sound none) (hkeeps : a.KeepsBootLock) :
    Relocks (d.grant? a) d.board (d.act a).board := by
  cases a with
  | world usb board => exact relocks_none (hkeeps d.board)
  | call c =>
    exact (h.deed_call c).relocks

/-! ### The run -/

theorem grants_append (d : Device) (before after : List Action) :
    d.grants (before ++ after) = d.grants before ++ (d.run before).grants after := by
  induction before generalizing d with
  | nil => rfl
  | cons a before ih => rw [List.cons_append, grants, ih, run_cons, grants, List.append_assoc]

theorem grants_concat (d : Device) (actions : List Action) (a : Action) :
    d.grants (actions ++ [a]) = d.grants actions ++ ((d.run actions).grant? a).toList := by
  rw [grants_append, grants, grants, List.append_nil]

/-- **The state of the boot lock is the last one granted**, or what it was if none was. -/
theorem Sound.bootLock?_run (h : d.Sound none) (hkeeps : ∀ a ∈ actions, a.KeepsBootLock) :
    (d.run actions).board.bootLock? = (d.grants actions).getLast?.or d.board.bootLock? := by
  induction actions using List.reverseRecOn with
  | nil => rfl
  | append_singleton actions a ih =>
    have hbefore := ih fun b hb => hkeeps b (List.mem_append_left [a] hb)
    have hlast := (h.run actions).relocks_act (hkeeps a (by simp))
    rw [run_append, run_cons, run_nil, grants_concat, hlast.bootLock?_eq, hbefore]
    cases (d.run actions).grant? a with
    | none => rw [Option.toList_none, List.append_nil, Option.none_or]
    | some state => simp

/-- To unlock a lock that was disabled takes that it is locked before, and not disabled again. -/
theorem Sound.exists_locked (h : d.Sound none)
    (hdisabled : d.board.bootLock? = some .unlockDisabled)
    (hkeeps : ∀ a ∈ actions, a.KeepsBootLock)
    (hunlocked : (d.run actions).board.bootLock? = some .unlocked) :
    ∃ front middle, d.grants actions = front ++ .locked :: middle ++ [.unlocked] ∧
      .unlockDisabled ∉ middle := by
  induction actions using List.reverseRecOn with
  | nil => exact absurd (hdisabled.symm.trans hunlocked) nofun
  | append_singleton actions a ih =>
    have hkeeps' : ∀ b ∈ actions, b.KeepsBootLock := fun b hb =>
      hkeeps b (List.mem_append_left [a] hb)
    have hstate := h.bootLock?_run hkeeps'
    have hlast := (h.run actions).relocks_act (hkeeps a (by simp))
    rw [run_append, run_cons, run_nil, hlast.bootLock?_eq] at hunlocked
    rw [grants_concat]
    cases hgrant : (d.run actions).grant? a with
    | none =>
      rw [hgrant, Option.none_or] at hunlocked
      rw [Option.toList_none, List.append_nil]
      exact ih hkeeps' hunlocked
    | some state =>
      rw [hgrant, Option.some_or] at hunlocked
      have hne := hlast.ne_unlockDisabled (hgrant.trans hunlocked)
      rw [Option.toList_some, Option.some.inj hunlocked]
      -- the lock was not disabled just before, so it had been locked by then
      rw [hdisabled] at hstate
      cases hgrants : (d.grants actions).getLast? with
      | none =>
        rw [hgrants] at hstate
        exact absurd hstate hne
      | some previous =>
        rw [hgrants, Option.some_or] at hstate
        cases previous with
        | unlockDisabled => exact absurd hstate hne
        | locked =>
          obtain ⟨front, hfront⟩ := List.getLast?_eq_some_iff.mp hgrants
          exact ⟨front, [], by rw [hfront], nofun⟩
        | unlocked =>
          obtain ⟨front, middle, hsame, hmiddle⟩ := ih hkeeps' hstate
          exact ⟨front, middle ++ [.unlocked], by simp [hsame], by simpa using hmiddle⟩

/-- **What it takes to unlock verified boot once that was disabled.** In any run after it, the lock ends
up unlocked exactly if that is the last state that was granted, with the locked state granted before and
unlocking not disabled in between. While the locked state is not granted, unlocking stays disabled. -/
theorem unlocked_run_iff {settings : Settings} {usb : Controller} {board : Board}
    (hbind : bind settings usb board = .ok d) (before after : List Action)
    (hdisabled : (d.run before).board.bootLock? = some .unlockDisabled)
    (hkeeps : ∀ a ∈ after, a.KeepsBootLock) :
    ((d.run (before ++ after)).board.bootLock? = some .unlocked ↔
        ∃ front middle,
          (d.run before).grants after = front ++ .locked :: middle ++ [.unlocked] ∧
            .unlockDisabled ∉ middle) ∧
      (.locked ∉ (d.run before).grants after →
        (d.run (before ++ after)).board.bootLock? = some .unlockDisabled) := by
  have hsound := (sound_of_bind hbind).run before
  have hstate := hsound.bootLock?_run hkeeps
  have hexists := hsound.exists_locked hdisabled hkeeps
  rw [run_append]
  refine ⟨⟨hexists, ?_⟩, fun hnever => ?_⟩
  · rintro ⟨front, middle, hgrants, -⟩
    rw [hstate, hgrants, List.getLast?_append, List.getLast?_singleton]
    rfl
  · rw [hdisabled] at hstate
    cases hgrants : ((d.run before).grants after).getLast? with
    | none => rw [hstate, hgrants, Option.none_or]
    | some last =>
      rw [hgrants, Option.some_or] at hstate
      cases last with
      | unlockDisabled => exact hstate
      | locked => exact absurd (List.mem_of_getLast? hgrants) hnever
      | unlocked =>
        obtain ⟨front, middle, hsame, -⟩ := hexists hstate
        exact absurd (by simp [hsame]) hnever

/-- A device with locks. -/
def guarded : Device where
  toTarget := .start {} { lock := some {} }
  usb := {}

theorem bind_guarded : bind {} {} { lock := some {} } = .ok guarded :=
  bind_eq_ok_iff.mpr ⟨Settings.valid_default, rfl⟩

/-- A session in which unlocking is disabled. -/
def disabling : List Action :=
  [.call .enable, asks "oem at-disable-unlock-vboot"]

theorem bootLock?_disabling :
    (guarded.run disabling).board.bootLock? = some .unlockDisabled := by
  decide +kernel

/-- A lock that was disabled refuses to be unlocked. -/
theorem unlocked_run_iff_refused : (guarded.run disabling).board.bootLock? = some .unlockDisabled ∧
    (guarded.run (disabling ++ [asks "oem at-unlock-vboot"])).board.bootLock? =
      some .unlockDisabled := by
  have hkeeps : ∀ a ∈ [asks "oem at-unlock-vboot"], a.KeepsBootLock := by
    intro a ha
    rw [List.mem_singleton.mp ha]
    trivial
  exact ⟨bootLock?_disabling, (unlocked_run_iff bind_guarded disabling
    [asks "oem at-unlock-vboot"] bootLock?_disabling hkeeps).2 (by decide +kernel)⟩

/-- **A lock that is unlocked although that was disabled.** It is locked once in between. -/
theorem unlocked_run : (guarded.run disabling).board.bootLock? = some .unlockDisabled ∧
    (guarded.run (disabling ++
      [asks "oem at-lock-vboot", asks "oem at-unlock-vboot"])).board.bootLock? = some .unlocked :=
  ⟨bootLock?_disabling, by decide +kernel⟩

end Fastboot.Device
