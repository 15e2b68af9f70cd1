import Fastboot.Proofs.Device.Bus
import Mathlib.Data.List.Induction

/-!
# Frames in flight

A device marks that one of its frames is queued and has not completed. It never asks its controller, so
the mark is as good as the bookkeeping: `Accurate` says that there is a frame if and only if the mark says
so. Two things `Spoil` it. An answer that is refused has already taken the place of the frame before it,
whose mark stays; and a session that starts with a frame still queued drops the mark and keeps the frame.

Whatever is done to a frame in order `Renews` the mark, and so does each start and end of a session. The
mark of a device is wrong exactly while something has spoiled it and nothing has renewed it since
(`accurate_play_iff`).
-/

namespace Fastboot

/-- No command has to do with the frames. -/
theorem Command.Outcome.inFlight_eq {command : String} {t t' : Target} {reply : Reply}
    (h : Outcome command t reply t') : t'.transfer.inFlight = t.transfer.inFlight := by
  cases h with
  | download => simp [dropData]
  | upload => simp
  | _ => rfl

@[simp]
theorem Transfer.inFlight_interrupted (t : Transfer) : t.interrupted.inFlight = t.inFlight := by
  rw [interrupted]
  split_ifs
  · rfl
  · rfl

namespace Device

variable {d d' : Device} {status : TransferStatus} {data frame : ByteArray} {actual : Nat}
  {offer : Option Offer} {o : Offer} {a : BusAction}

/-- A device has a frame in flight if and only if its controller has one queued. -/
def Accurate (d : Device) : Prop :=
  d.transfer.inFlight = d.usb.pending.isSome

instance (d : Device) : Decidable d.Accurate :=
  inferInstanceAs (Decidable (_ = _))

/-- What makes the mark for a frame in flight wrong. -/
inductive Spoils (d : Device) : BusAction → Prop where
  /-- A session starts with a frame still queued. -/
  | enable (hlive : d.lifecycle ≠ .halted) (hpending : d.usb.pending.isSome = true) :
      Spoils d .enable
  /-- An answer is refused where a frame has been in flight. -/
  | received (status : TransferStatus) (data : ByteArray)
      (hoffer : (d.offer? (.received status data)).isSome = true)
      (hfail : d.usb.failNext = true) (hflight : d.transfer.inFlight = true) :
      Spoils d (.received status data)

/-- What has the mark written anew: the start and the end of a session, an answer, and the completion of
a frame. -/
inductive Renews (d : Device) : BusAction → Prop where
  | enable (hlive : d.lifecycle ≠ .halted) : Renews d .enable
  | disable (henabled : d.lifecycle = .enabled) : Renews d .disable
  | received (status : TransferStatus) (data : ByteArray)
      (hoffer : (d.offer? (.received status data)).isSome = true) :
      Renews d (.received status data)
  | collected (status : TransferStatus) (actual : Nat) (hpending : d.usb.pending.isSome = true) :
      Renews d (.collected status actual)

/-- Something has spoiled the mark, and nothing has renewed it since. -/
inductive Stale (d : Device) : List BusAction → Prop where
  | spoiled (actions : List BusAction) (a : BusAction) (hspoils : (d.play actions).Spoils a) :
      Stale d (actions ++ [a])
  | kept (actions : List BusAction) (a : BusAction) (hstale : Stale d actions)
      (hkeeps : ¬ (d.play actions).Renews a) : Stale d (actions ++ [a])

theorem stale_concat_iff {actions : List BusAction} : d.Stale (actions ++ [a]) ↔
    (d.play actions).Spoils a ∨ d.Stale actions ∧ ¬ (d.play actions).Renews a := by
  constructor
  · intro h
    generalize hall : actions ++ [a] = all at h
    rcases h with ⟨before, last, hspoils⟩ | ⟨before, last, hstale, hkeeps⟩
    · obtain ⟨rfl, ha⟩ := List.append_inj' hall rfl
      exact .inl (List.singleton_inj.mp ha ▸ hspoils)
    · obtain ⟨rfl, ha⟩ := List.append_inj' hall rfl
      exact .inr ⟨hstale, List.singleton_inj.mp ha ▸ hkeeps⟩
  · rintro (hspoils | ⟨hstale, hkeeps⟩)
    · exact .spoiled actions a hspoils
    · exact .kept actions a hstale hkeeps

/-! ### The mark in a completion -/

/-- A transfer that comes in does not change what is in flight, up to the answer to it. -/
theorem Reception.inFlight_eq (hr : Reception d data status d' offer) :
    d'.transfer.inFlight = d.transfer.inFlight := by
  cases hr with
  | refused => exact d.transfer.inFlight_interrupted
  | command text reply target events _ _ _ hrun =>
    have houtcome := Command.outcome_dispatch text
      { d.toTarget with transfer := d.transfer.interrupted, events }
    rw [hrun] at houtcome
    exact houtcome.inFlight_eq.trans d.transfer.inFlight_interrupted
  | _ => rfl

/-- A frame that has gone out is not in flight any more. -/
theorem Progression.inFlight_eq (hp : Progression d actual status d' offer) :
    d'.transfer.inFlight = false := by
  cases hp <;> rfl

/-- A frame that meets the controller is marked if it is taken. If it is refused, nothing is queued, but
the mark stays as it was. -/
theorem accurate_hand_some_iff : (d.hand (some o)).Accurate ↔
    d.usb.failNext = false ∨ d.transfer.inFlight = false := by
  rw [Accurate, transfer_hand_some, pending_hand_some]
  by_cases hfail : d.usb.failNext = true
  · have hrefuses : ¬ d.Accepts o := by
      rw [accepts_iff_failNext, hfail]
      nofun
    have hkept : (d.transfer.dropped o).inFlight = d.transfer.inFlight := by
      rw [Transfer.dropped]
      split_ifs
      · rfl
      · rfl
    rw [if_neg hrefuses, if_pos hfail, hkept, Option.isSome_none]
    exact ⟨.inr, fun h => h.resolve_left (by simp [hfail])⟩
  · have hfalse : d.usb.failNext = false := Bool.eq_false_iff.mpr hfail
    rw [if_pos (accepts_iff_failNext.mpr hfalse), if_neg hfail]
    exact iff_of_true rfl (.inl hfalse)

/-- Arming a request does not touch the mark either. -/
theorem accurate_arm_iff : d.arm.Accurate ↔ d.Accurate := by
  rw [Accurate, toTarget_arm, pending_arm, Accurate]

/-! ### Devices that leave no frame behind -/

/-- A sound device that has a frame queued only while it is enabled. -/
structure Tidy (d : Device) : Prop extends Sound d none where
  pending_eq : d.lifecycle ≠ .enabled → d.usb.pending = none

theorem Tidy.enabled (h : d.Tidy) (hpending : d.usb.pending = some frame) :
    d.lifecycle = .enabled := by
  by_contra hne
  exact nomatch hpending.symm.trans (h.pending_eq hne)

/-- Everything that happens on the bus keeps a device tidy. -/
theorem Tidy.turn (h : d.Tidy) (a : BusAction) : (d.turn a).Tidy := by
  refine ⟨h.toSound.turn a, ?_⟩
  cases a with
  | failNext => exact h.pending_eq
  | enable =>
    rw [Device.turn, call, enable]
    split_ifs
    · exact h.pending_eq
    · exact fun hne => absurd rfl hne
  | disable =>
    rw [Device.turn, call, disable]
    split_ifs
    · intro _
      show d.usb.cancelIn.pending = none
      rw [Controller.cancelIn_eq]
    · exact h.pending_eq
  | received status data =>
    by_cases henabled : d.lifecycle = .enabled
    · obtain ⟨d', offer, hr, -, hturn⟩ := h.exists_reception henabled status data
      intro hne
      rw [hturn, lifecycle_arm, lifecycle_hand, hr.lifecycle_eq] at hne
      exact absurd henabled hne
    · rw [Device.turn, call, onOutComplete, if_neg henabled]
      exact h.pending_eq
  | collected status actual =>
    cases hpending : d.usb.pending with
    | none =>
      rw [turn_collected_of_none hpending]
      exact h.pending_eq
    | some frame =>
      have henabled := h.enabled hpending
      obtain ⟨d', offer, hp, hturn⟩ := h.exists_progression henabled hpending status actual
      intro hne
      rw [hturn, lifecycle_hand] at hne
      rw [hturn]
      -- only an action that ends the session ends it, and it leaves no frame
      cases hp with
      | exit => exact d.usb.pending_completeIn
      | _ => exact absurd henabled hne

theorem Tidy.play (h : d.Tidy) (actions : List BusAction) : (d.play actions).Tidy := by
  induction actions generalizing d with
  | nil => exact h
  | cons a actions ih => exact ih (h.turn a)

/-! ### The mark in a run -/

/-- A session starts without the mark, so it is right if nothing is queued. -/
theorem accurate_turn_enable_iff (hlive : d.lifecycle ≠ .halted) :
    (d.turn .enable).Accurate ↔ d.usb.pending.isSome = false := by
  have hstart : (d.turn .enable).transfer.inFlight = false ∧
      (d.turn .enable).usb.pending = d.usb.pending := by
    rw [Device.turn, call, enable, if_neg hlive]
    obtain ⟨armed, hrequest⟩ := usb_request { d with
      inbound := some (.empty d.settings.bufferSize)
      transfer := {}
      lifecycle := .enabled } d.settings.bufferSize
    exact ⟨rfl, by rw [hrequest]⟩
  rw [Accurate, hstart.1, hstart.2, eq_comm]

/-- A session ends without the mark and without a frame. -/
theorem accurate_turn_disable (henabled : d.lifecycle = .enabled) :
    (d.turn .disable).Accurate := by
  rw [Device.turn, call, disable, if_pos henabled, Controller.cancelIn_eq]
  rfl

/-- An answer brings its mark with it, unless it is refused. -/
theorem Sound.accurate_turn_received_iff (h : d.Sound none)
    (hoffer : (d.offer? (.received status data)).isSome = true) :
    (d.turn (.received status data)).Accurate ↔
      d.usb.failNext = false ∨ d.transfer.inFlight = false := by
  obtain ⟨o, ho⟩ := Option.isSome_iff_exists.mp hoffer
  obtain ⟨d', offer, hr, hsame, hturn⟩ :=
    h.exists_reception (enabled_of_offer? ho) status data
  obtain rfl := hsame.symm.trans ho
  rw [hturn, accurate_arm_iff, accurate_hand_some_iff, hr.usb_eq, hr.inFlight_eq]

/-- A frame that goes out takes its mark with it, and the next one brings its own. -/
theorem Tidy.accurate_turn_collected (h : d.Tidy) (hpending : d.usb.pending = some frame)
    (status : TransferStatus) (actual : Nat) : (d.turn (.collected status actual)).Accurate := by
  obtain ⟨d', offer, hp, hturn⟩ :=
    h.exists_progression (h.enabled hpending) hpending status actual
  rw [hturn]
  cases offer with
  | none =>
    rw [hand, Accurate, hp.inFlight_eq, hp.usb_eq, Controller.pending_completeIn]
    rfl
  | some o => exact accurate_hand_some_iff.mpr (.inr hp.inFlight_eq)

/-- The mark is right once it has been renewed, unless that is what spoils it. -/
theorem Tidy.accurate_turn_of_renews (h : d.Tidy) (hrenews : d.Renews a) :
    (d.turn a).Accurate ↔ ¬ d.Spoils a := by
  rcases hrenews with hlive | henabled | ⟨status, data, hoffer⟩ | ⟨status, actual, hpending⟩
  · rw [accurate_turn_enable_iff hlive]
    constructor
    · rintro hnone (⟨-, hsome⟩ | -)
      exact absurd (hnone.symm.trans hsome) nofun
    · intro hclean
      exact Bool.eq_false_iff.mpr fun hsome => hclean (.enable hlive hsome)
  · exact iff_of_true (accurate_turn_disable henabled) nofun
  · rw [h.accurate_turn_received_iff hoffer]
    constructor
    · rintro hright (- | ⟨-, -, -, hfail, hflight⟩)
      rw [hfail, hflight] at hright
      exact absurd hright (by decide)
    · intro hclean
      by_contra hwrong
      rw [not_or, Bool.not_eq_false, Bool.not_eq_false] at hwrong
      exact hclean (.received status data hoffer hwrong.1 hwrong.2)
  · obtain ⟨frame, hframe⟩ := Option.isSome_iff_exists.mp hpending
    exact iff_of_true (h.accurate_turn_collected hframe status actual) nofun

/-- Nothing else has to do with the mark. -/
theorem Tidy.accurate_turn_of_not_renews (h : d.Tidy) (hkeeps : ¬ d.Renews a) :
    (d.turn a).Accurate ↔ d.Accurate := by
  cases a with
  | failNext => rfl
  | enable =>
    have hhalted : d.lifecycle = .halted := by
      by_contra hlive
      exact hkeeps (.enable hlive)
    rw [Device.turn, call_of_halted hhalted]
  | disable =>
    rw [Device.turn, call, disable, if_neg fun henabled => hkeeps (.disable henabled)]
  | received status data =>
    by_cases henabled : d.lifecycle = .enabled
    · obtain ⟨d', offer, hr, hsame, hturn⟩ := h.exists_reception henabled status data
      have hnone : offer = none := by
        by_contra hsome
        exact hkeeps (.received status data (hsame ▸ Option.isSome_iff_ne_none.mpr hsome))
      rw [hturn, accurate_arm_iff, hnone, hand, Accurate, hr.usb_eq, hr.inFlight_eq, Accurate]
    · rw [Device.turn, call, onOutComplete, if_neg henabled]
  | collected status actual =>
    have hnone : d.usb.pending = none := by
      by_contra hsome
      exact hkeeps (.collected status actual (Option.isSome_iff_ne_none.mpr hsome))
    rw [turn_collected_of_none hnone]

/-- What spoils the mark is what should have renewed it. -/
theorem Spoils.renews (h : d.Spoils a) : d.Renews a := by
  rcases h with ⟨hlive, -⟩ | ⟨status, data, hoffer, -, -⟩
  · exact .enable hlive
  · exact .received status data hoffer

/-- **When the mark for a frame in flight is right.** Over any controller that starts without a frame, and
whatever happens on its bus, the mark of a device says whether the controller has a frame queued, unless
something has spoiled it and nothing has renewed it since. -/
theorem accurate_play_iff {settings : Settings} {usb : Controller} {board : Board}
    (hbind : bind settings usb board = .ok d) (hpending : usb.pending = none)
    (actions : List BusAction) : (d.play actions).Accurate ↔ ¬ d.Stale actions := by
  have hstart : d.usb.pending = none ∧ d.transfer.inFlight = false := by
    obtain ⟨-, rfl⟩ := bind_eq_ok_iff.mp hbind
    exact ⟨hpending, rfl⟩
  have htidy : d.Tidy := ⟨sound_of_bind hbind, fun _ => hstart.1⟩
  induction actions using List.reverseRecOn with
  | nil =>
    refine iff_of_true ?_ fun hstale => ?_
    · rw [play_nil, Accurate, hstart.1, hstart.2]
      rfl
    · generalize hall : ([] : List BusAction) = all at hstale
      cases hstale <;> simp at hall
  | append_singleton actions a ih =>
    have hbefore := htidy.play actions
    rw [play_append, play_cons, play_nil, stale_concat_iff]
    by_cases hrenews : (d.play actions).Renews a
    · rw [hbefore.accurate_turn_of_renews hrenews]
      simp [hrenews]
    · have hclean : ¬ (d.play actions).Spoils a := fun hspoils => hrenews hspoils.renews
      have hsame := (hbefore.accurate_turn_of_not_renews hrenews).trans ih
      rw [hsame]
      simp [hrenews, hclean]

/-- A command that every device answers. -/
def asked : BusAction :=
  .received .completed "getvar:version".toUTF8

/-- The answer to the first command of a session is in flight, and its mark says so. -/
theorem accurate_play_asked : ∃ d, bind {} {} {} = .ok d ∧ (d.play [.enable, asked]).Accurate ∧
    ¬ d.Stale [.enable, asked] := by
  have hbind : bind {} {} {} = .ok { toTarget := .start {} {}, usb := {} } :=
    bind_eq_ok_iff.mpr ⟨Settings.valid_default, rfl⟩
  have haccurate : (play { toTarget := .start {} {}, usb := {} } [.enable, asked]).Accurate := by
    decide +kernel
  exact ⟨_, hbind, haccurate, (accurate_play_iff hbind rfl [.enable, asked]).mp haccurate⟩

/-- **A mark that is wrong.** An answer that is refused leaves the mark of the one that it has taken the
place of, and a second start of a session leaves an answer in the queue without its mark. -/
theorem not_accurate_play : ∃ d, bind {} {} {} = .ok d ∧
    ((d.play [.enable, asked, .failNext, asked]).transfer.inFlight = true ∧
      (d.play [.enable, asked, .failNext, asked]).usb.pending = none) ∧
    ((d.play [.enable, asked, .enable]).transfer.inFlight = false ∧
      (d.play [.enable, asked, .enable]).usb.pending.isSome = true) := by
  have hbind : bind {} {} {} = .ok { toTarget := .start {} {}, usb := {} } :=
    bind_eq_ok_iff.mpr ⟨Settings.valid_default, rfl⟩
  refine ⟨_, hbind, ⟨by decide +kernel, ?_⟩, by decide +kernel, by decide +kernel⟩
  exact Option.isNone_iff_eq_none.mp (by decide +kernel)

end Device

end Fastboot
