import Fastboot.Proofs.Device.Request

/-!
# The request that a device takes for armed

A device notes the length of the request that it arms, before the controller has answered. An `Attempt` is the
length together with the answer, and `latestAttempt` is the last one of a run: there is none before the first
session and behind the end of one.

`noted_run` says that the note is always the length of the latest attempt. What the controller has granted may
be less: if the attempt was refused, the note names a request that is not there. No attempt is for an empty
request (`Sound.expected_pos`), so the note is right exactly if the latest attempt was accepted.
-/

namespace Fastboot.Device

/-- An attempt to arm a request, with what the controller has answered. -/
structure Attempt where
  length : Nat
  outcome : Except QueueError Unit
  deriving DecidableEq

/-- The length of the request that is armed then, if the controller has accepted it. -/
def Attempt.granted? : Attempt → Option Nat
  | ⟨length, .ok ()⟩ => some length
  | ⟨_, .error _⟩ => none

/-- The device by the time that a call arms a request, if it does. -/
def arming? (d : Device) : Call → Option Device
  | .enable =>
    if d.lifecycle = .halted then none
    else some { d with
      inbound := some (.empty d.settings.bufferSize), transfer := {}, lifecycle := .enabled }
  | .received status data =>
    if d.lifecycle = .enabled then some ((d.receive status data).1.hand (d.receive status data).2)
    else none
  | .disable | .sent _ _ => none

/-- The attempt that a call makes to arm a request. -/
def attempt? (d : Device) (c : Call) : Option Attempt :=
  (d.arming? c).map fun e => ⟨e.expected, (e.usb.queueOut e.expected).1⟩

/-- The latest attempt behind an action, with `last` before it. The end of a session takes it back. -/
def attemptAfter (d : Device) (last : Option Attempt) : Action → Option Attempt
  | .world _ _ => last
  | .call .disable => if d.lifecycle = .enabled then none else last
  | .call c => (d.attempt? c).or last

/-- The latest attempt behind some actions, with `last` before them. -/
def attemptFrom (d : Device) (last : Option Attempt) : List Action → Option Attempt
  | [] => last
  | a :: actions => (d.act a).attemptFrom (d.attemptAfter last a) actions

/-- The latest attempt of a device to arm a request: none before the first session, and behind the end of one.
-/
def latestAttempt (d : Device) (actions : List Action) : Option Attempt :=
  d.attemptFrom none actions

variable {d e : Device} {c : Call} {last : Option Attempt}

/-! ### What the controller is asked -/

theorem arming?_eq_some_iff : d.arming? c = some e ↔ d.Arming c e := by
  constructor
  · intro harming
    cases c with
    | enable =>
      rw [arming?] at harming
      split_ifs at harming with hhalted
      cases harming
      exact .enable hhalted
    | disable => cases harming
    | received status data =>
      rw [arming?] at harming
      split_ifs at harming with henabled
      cases harming
      exact .received status data henabled
    | sent => cases harming
  · rintro (hlive | ⟨status, data, henabled⟩)
    · rw [arming?, if_neg hlive]
    · rw [arming?, if_pos henabled]

/-- A refused request leaves the one that is armed, and an accepted one takes its place. -/
theorem armed_request (d : Device) (length : Nat) : (d.request length).2.usb.armed =
    (Attempt.granted? ⟨length, (d.usb.queueOut length).1⟩).or d.usb.armed := by
  rw [request, Controller.queueOut]
  split_ifs
  · rfl
  · rfl

theorem Progression.requested_eq {d' : Device} {actual : Nat} {status : TransferStatus}
    {offer : Option Offer} (hp : Progression d actual status d' offer) :
    d'.requested = d.requested := by
  cases hp <;> rfl

/-- What a call leaves alone that neither arms a request nor ends a session. -/
theorem Sound.call_of_not_arming (hs : d.Sound none) (hnone : d.arming? c = none)
    (hgoes : c = .disable → d.lifecycle ≠ .enabled) :
    (d.call c).requested = d.requested ∧ (d.call c).usb.armed = d.usb.armed ∧
      ((d.call c).lifecycle = .bound ↔ d.lifecycle = .bound) := by
  by_cases henabled : d.lifecycle = .enabled
  · -- in a session, that leaves the completion of a frame
    cases c with
    | enable => simp [arming?, henabled] at hnone
    | disable => exact absurd henabled (hgoes rfl)
    | received => simp [arming?, henabled] at hnone
    | sent status actual =>
      have hp := progression_proceed hs status actual
      rw [Device.call, onInComplete_of_enabled henabled, armed_hand, hp.usb_eq, lifecycle_hand,
        henabled]
      obtain ⟨_, _, _, hhand⟩ := hand_eq (d.proceed status actual).1 (d.proceed status actual).2
      refine ⟨by rw [hhand, hp.requested_eq], rfl, ?_⟩
      rcases hp.lifecycle_eq with hsame | ⟨hhalted, -⟩
      · rw [hsame, henabled]
      · rw [hhalted]
        decide
  · have hcall : d.call c = d := by
      cases c with
      | enable =>
        rw [arming?] at hnone
        split_ifs at hnone with hhalted
        exact call_of_halted hhalted .enable
      | disable => rw [Device.call, disable, if_neg henabled]
      | received => rw [Device.call, onOutComplete, if_neg henabled]
      | sent => rw [Device.call, onInComplete, if_neg henabled]
    rw [hcall]
    exact ⟨rfl, rfl, Iff.rfl⟩

/-- **Only an attempt that is accepted arms a request.** -/
theorem Sound.armed_call (hs : d.Sound none) (c : Call) :
    (d.call c).usb.armed = ((d.attempt? c).bind Attempt.granted?).or d.usb.armed := by
  cases harming : d.arming? c with
  | some e =>
    have ha := arming?_eq_some_iff.mp harming
    obtain ⟨_, _, _, husb⟩ := ha.usb_eq hs
    have hkept : e.usb.armed = d.usb.armed := by rw [husb]
    rw [ha.call_eq hs, armed_request, hkept, attempt?, harming]
    rfl
  | none =>
    have hkept : (d.call c).usb.armed = d.usb.armed := by
      by_cases hends : c = .disable
      · subst hends
        rcases d.usb_disable with hsame | hcancel
        · rw [hsame]
        · rw [hcancel, Controller.cancelIn_eq]
      · exact (hs.call_of_not_arming harming fun hdisable => absurd hdisable hends).2.1
    rw [hkept, attempt?, harming]
    rfl

/-! ### What the device notes -/

/-- What a device has noted, with `last` for its latest attempt to arm a request. -/
structure Noted (d : Device) (last : Option Attempt) : Prop where
  requested_eq : d.requested = (last.map Attempt.length).getD 0
  eq_none_iff : last = none ↔ d.lifecycle = .bound
  length_pos : ∀ a ∈ last, 0 < a.length

/-- One more attempt is noted, whatever comes of it. -/
theorem Noted.arming (hs : d.Sound none) (ha : d.Arming c e) :
    (d.call c).Noted (some ⟨e.expected, (e.usb.queueOut e.expected).1⟩) := by
  obtain ⟨hsound, -, henabled⟩ := ha.sound hs
  rw [ha.call_eq hs]
  refine { requested_eq := rfl, eq_none_iff := ?_, length_pos := ?_ }
  · have hlive : (e.request e.expected).2.lifecycle = .enabled := henabled
    simp [hlive]
  · rintro a ⟨⟩
    exact hsound.expected_pos

/-- A session that does not end keeps its latest attempt, until there is another. -/
theorem attemptAfter_call (hgoes : c = .disable → d.lifecycle ≠ .enabled) :
    d.attemptAfter last (.call c) = (d.attempt? c).or last := by
  cases c with
  | disable =>
    rw [attemptAfter, if_neg (hgoes rfl), attempt?, arming?, Option.map_none, Option.none_or]
  | _ => rfl

theorem Noted.act (h : d.Noted last) (hs : d.Sound none) (a : Action) :
    (d.act a).Noted (d.attemptAfter last a) := by
  cases a with
  | world => exact { h with }
  | call c =>
    by_cases hends : c = .disable ∧ d.lifecycle = .enabled
    · -- what was noted is given up together with the attempt
      obtain ⟨rfl, henabled⟩ := hends
      rw [attemptAfter, if_pos henabled, Device.act, Device.call, disable, if_pos henabled]
      exact { requested_eq := rfl, eq_none_iff := iff_of_true rfl rfl, length_pos := by simp }
    · have hgoes : c = .disable → d.lifecycle ≠ .enabled := fun hc henabled => hends ⟨hc, henabled⟩
      rw [attemptAfter_call hgoes, Device.act]
      cases harming : d.arming? c with
      | some e =>
        rw [attempt?, harming]
        exact Noted.arming hs (arming?_eq_some_iff.mp harming)
      | none =>
        obtain ⟨hrequested, -, hbound⟩ := hs.call_of_not_arming harming hgoes
        rw [attempt?, harming]
        exact {
          requested_eq := hrequested.trans h.requested_eq
          eq_none_iff := h.eq_none_iff.trans hbound.symm
          length_pos := h.length_pos }

theorem Noted.run (h : d.Noted last) (hs : d.Sound none) (actions : List Action) :
    (d.run actions).Noted (d.attemptFrom last actions) := by
  induction actions generalizing d last with
  | nil => exact h
  | cons a actions ih => exact ih (h.act hs a) (hs.act a)

/-- What is noted is what has been granted, unless the latest attempt was refused. -/
theorem Noted.granted_iff (h : d.Noted last) :
    d.requested = (last.bind Attempt.granted?).getD 0 ↔ ∀ a ∈ last, a.outcome = .ok () := by
  rw [h.requested_eq]
  cases last with
  | none => simp
  | some a =>
    obtain ⟨length, error | ⟨⟩⟩ := a
    · -- the length of a request is never zero, and that of a refused one counts as zero
      have hpos : 0 < length := h.length_pos _ rfl
      simp only [Option.map_some, Option.getD_some, Option.bind_some, Attempt.granted?,
        Option.getD_none, Option.mem_some_iff, forall_eq']
      exact iff_of_false (Nat.ne_of_gt hpos) (by simp)
    · simp [Attempt.granted?]

/-- **A device notes what it has asked for, not what it was given.** Over every run, with a controller that
may refuse any request, what the device takes for the length of the armed request is the length of its latest
attempt to arm one, and nothing if there was no session or the last one has ended. That is what the controller
has granted in the attempt if and only if it was accepted. Whether an attempt is accepted or refused, the
controller has armed what it has granted, and keeps what was armed otherwise. -/
theorem noted_run {settings : Settings} {usb : Controller} {board : Board}
    (hbind : bind settings usb board = .ok d) (actions : List Action) :
    (d.run actions).requested = ((d.latestAttempt actions).map Attempt.length).getD 0 ∧
      (d.latestAttempt actions = none ↔ (d.run actions).lifecycle = .bound) ∧
      ((d.run actions).requested = ((d.latestAttempt actions).bind Attempt.granted?).getD 0 ↔
        ∀ a ∈ d.latestAttempt actions, a.outcome = .ok ()) ∧
      ∀ c, ((d.run actions).call c).usb.armed =
        (((d.run actions).attempt? c).bind Attempt.granted?).or (d.run actions).usb.armed := by
  have hs := sound_of_bind hbind
  have hstart : d.Noted none := by
    obtain ⟨-, rfl⟩ := bind_eq_ok_iff.mp hbind
    exact { requested_eq := rfl, eq_none_iff := iff_of_true rfl rfl, length_pos := by simp }
  have hnoted : (d.run actions).Noted (d.latestAttempt actions) := hstart.run hs actions
  exact ⟨hnoted.requested_eq, hnoted.eq_none_iff, hnoted.granted_iff, (hs.run actions).armed_call⟩

/-- A session over a controller that comes to refuse requests before a download is announced. -/
def refusedSession : List Action :=
  [.call .enable, .world (fun usb => { usb with refusesOut := true }) id, asks "download:00000010"]

/-- The device takes a request of 64 bytes for armed, where the one of the last command still is. Behind the
end of the session it takes none for armed. -/
theorem noted_run_refused :
    fullSpeed.latestAttempt refusedSession = some ⟨64, .error (.busy .bulkOut)⟩ ∧
      (fullSpeed.run refusedSession).requested = 64 ∧
      (fullSpeed.run refusedSession).usb.armed = some 512 ∧
      (fullSpeed.run (refusedSession ++ [.call .disable])).requested = 0 := by
  have hrefused : fullSpeed.latestAttempt refusedSession = some ⟨64, .error (.busy .bulkOut)⟩ := by
    decide +kernel
  obtain ⟨hrequested, -⟩ := noted_run bind_fullSpeed refusedSession
  rw [hrefused] at hrequested
  have hended : fullSpeed.latestAttempt (refusedSession ++ [.call .disable]) = none := by
    decide +kernel
  obtain ⟨hnothing, -⟩ := noted_run bind_fullSpeed (refusedSession ++ [.call .disable])
  rw [hended] at hnothing
  exact ⟨hrefused, hrequested, by decide +kernel, hnothing⟩

/-- The controller of a device that has just started refuses its first request, which is noted all the same.
-/
theorem requested_of_refused :
    tiny.latestAttempt [.world (fun usb => { usb with refusesOut := true }) id, .call .enable] =
        some ⟨512, .error (.busy .bulkOut)⟩ ∧
      (tiny.run [.world (fun usb => { usb with refusesOut := true }) id, .call .enable]).usb.armed =
        none ∧
      (tiny.run [.world (fun usb => { usb with refusesOut := true }) id, .call .enable]).requested =
        512 :=
  ⟨by decide +kernel, by decide +kernel, by decide +kernel⟩

end Fastboot.Device
