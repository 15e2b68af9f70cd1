import Fastboot.Controller
import Mathlib.Tactic.Common

/-!
# A controller that others hold too

A device shares its controller with whoever plays the host. `Controller.Handled` lists what that holder
can do to it between two calls of the device: take the request, collect, cancel or queue frames, and make
the next attempt to queue one fail. It never arms a request, and it leaves alone how the controller
behaves (`Handled.eq`).

A frame is queued in the place of the one before it, unless the controller has been made to fail
(`replaceIn_eq`). A `Direct` controller does that in one step, and refuses no request. `Controller.queued`
counts the frames that have been queued: it is what tells whether one was.
-/

namespace Fastboot.Controller

/-- A controller that works at once and refuses no request. -/
structure Direct (c : Controller) : Prop where
  replacesAtOnce : c.replacesAtOnce = true
  refusesOut : c.refusesOut = false

/-- What the holder of a controller makes of it, other than by arming a request. -/
inductive Handled (c : Controller) : Controller → Prop where
  | takeOut : Handled c c.takeOut.2
  | completeIn : Handled c c.completeIn.2
  | cancelIn : Handled c c.cancelIn
  | queueIn (frame : ByteArray) : Handled c (c.queueIn frame).2
  | replaceIn (frame : ByteArray) : Handled c (c.replaceIn frame).2
  | failNextQueue : Handled c c.failNextQueue

variable {c c' : Controller} {frame : ByteArray}

/-! ### What is left alone -/

/-- To collect a frame changes no more than the frames. -/
theorem completeIn_snd_eq (c : Controller) :
    ∃ pending sent, c.completeIn.2 = { c with pending, sent } := by
  unfold completeIn
  split
  · exact ⟨c.pending, c.sent, rfl⟩
  · exact ⟨none, _, rfl⟩

@[simp]
theorem armed_completeIn (c : Controller) : c.completeIn.2.armed = c.armed := by
  obtain ⟨_, _, hcomplete⟩ := c.completeIn_snd_eq
  rw [hcomplete]

@[simp]
theorem failNext_completeIn (c : Controller) : c.completeIn.2.failNext = c.failNext := by
  obtain ⟨_, _, hcomplete⟩ := c.completeIn_snd_eq
  rw [hcomplete]

/-- The queued frame goes out, and no other takes its place by itself. -/
@[simp]
theorem pending_completeIn (c : Controller) : c.completeIn.2.pending = none := by
  unfold completeIn
  split
  · assumption
  · rfl

/-- However it was, no frame is queued any more. -/
theorem cancelIn_eq (c : Controller) : c.cancelIn = { c with
    pending := none, cancelled := c.cancelled + if c.pending.isSome then 1 else 0 } := by
  unfold cancelIn
  split
  · rfl
  · rename_i hpending
    have hnone : c.pending = none := Option.not_isSome_iff_eq_none.mp hpending
    rw [← hnone]
    rfl

theorem queueIn_snd_eq (c : Controller) (frame : ByteArray) : ∃ pending failNext,
    (c.queueIn frame).2 = { c with pending, failNext } := by
  unfold queueIn
  split
  · exact ⟨c.pending, false, rfl⟩
  · split
    · exact ⟨c.pending, c.failNext, rfl⟩
    · exact ⟨some frame, c.failNext, rfl⟩

/-- **A frame is queued, or refused if a failure was due.** Whether the controller replaces frames in one
step or in two, the one before it is gone, and the next one will be queued. -/
theorem replaceIn_eq (c : Controller) (frame : ByteArray) : c.replaceIn frame =
    if c.failNext then (.error injected, { c.cancelIn with failNext := false })
    else (.ok (), { c.cancelIn with pending := some frame }) := by
  by_cases hatonce : c.replacesAtOnce = true
  · rw [cancelIn_eq, Controller.replaceIn, if_pos hatonce]
  · rw [Controller.replaceIn, if_neg hatonce, cancelAndQueue, cancelIn_eq]
    rfl

/-- Only frames are concerned. -/
theorem replaceIn_snd_eq (c : Controller) (frame : ByteArray) : ∃ pending cancelled failNext,
    (c.replaceIn frame).2 = { c with pending, cancelled, failNext } := by
  rw [replaceIn_eq, cancelIn_eq]
  by_cases hfail : c.failNext = true
  · rw [if_pos hfail]
    exact ⟨none, _, false, rfl⟩
  · rw [if_neg hfail]
    exact ⟨some frame, _, c.failNext, rfl⟩

@[simp]
theorem armed_replaceIn (c : Controller) (frame : ByteArray) :
    (c.replaceIn frame).2.armed = c.armed := by
  obtain ⟨_, _, _, h⟩ := c.replaceIn_snd_eq frame
  rw [h]

theorem Direct.replaceIn (h : c.Direct) (frame : ByteArray) : (c.replaceIn frame).2.Direct := by
  obtain ⟨_, _, _, hreplace⟩ := c.replaceIn_snd_eq frame
  rw [hreplace]
  exact ⟨h.replacesAtOnce, h.refusesOut⟩

/-- To handle a controller is to change its frames, and at most to take its request. -/
theorem Handled.eq (h : Handled c c') : ∃ armed pending sent cancelled failNext,
    c' = { c with armed, pending, sent, cancelled, failNext } ∧
      (armed = none ∨ armed = c.armed) := by
  cases h with
  | takeOut => exact ⟨none, c.pending, c.sent, c.cancelled, c.failNext, rfl, .inl rfl⟩
  | completeIn =>
    obtain ⟨pending, sent, h⟩ := c.completeIn_snd_eq
    exact ⟨c.armed, pending, sent, c.cancelled, c.failNext, h, .inr rfl⟩
  | cancelIn =>
    exact ⟨c.armed, none, c.sent, _, c.failNext, c.cancelIn_eq, .inr rfl⟩
  | queueIn frame =>
    obtain ⟨pending, failNext, h⟩ := c.queueIn_snd_eq frame
    exact ⟨c.armed, pending, c.sent, c.cancelled, failNext, h, .inr rfl⟩
  | replaceIn frame =>
    obtain ⟨pending, cancelled, failNext, h⟩ := c.replaceIn_snd_eq frame
    exact ⟨c.armed, pending, c.sent, cancelled, failNext, h, .inr rfl⟩
  | failNextQueue => exact ⟨c.armed, c.pending, c.sent, c.cancelled, true, rfl, .inr rfl⟩

/-- However a controller is handled, it behaves as before. -/
theorem Handled.direct (hh : Handled c c') (h : c.Direct) : c'.Direct := by
  obtain ⟨_, _, _, _, _, rfl, -⟩ := hh.eq
  exact ⟨h.replacesAtOnce, h.refusesOut⟩

/-- No request is armed but the one that was. -/
theorem Handled.armed_eq (hh : Handled c c') : c'.armed = none ∨ c'.armed = c.armed := by
  obtain ⟨_, _, _, _, _, rfl, harmed⟩ := hh.eq
  exact harmed

/-! ### How many frames there were -/

/-- How many frames have been queued so far: those that went out, those that were cancelled, and the one
that is queued. -/
def queued (c : Controller) : Nat :=
  c.sent.size + c.cancelled + if c.pending.isSome then 1 else 0

@[simp]
theorem queued_cancelIn (c : Controller) : c.cancelIn.queued = c.queued := by
  rw [cancelIn_eq]
  exact Nat.add_assoc _ _ _ |>.symm

@[simp]
theorem queued_completeIn (c : Controller) : c.completeIn.2.queued = c.queued := by
  unfold completeIn
  split
  · rfl
  · rename_i frame hpending
    simp only [queued, hpending, Array.size_push, Option.isSome_none, Option.isSome_some]
    simp only [if_true, Bool.false_eq_true, if_false]
    omega

/-- A frame that is queued is one more, whatever becomes of the one before it. -/
theorem queued_replaceIn (c : Controller) (frame : ByteArray) :
    (c.replaceIn frame).2.queued = c.queued + if c.failNext then 0 else 1 := by
  have hcancel := c.queued_cancelIn
  rw [cancelIn_eq] at hcancel
  rw [replaceIn_eq, cancelIn_eq]
  by_cases hfail : c.failNext = true
  · rw [if_pos hfail, if_pos hfail]
    exact hcancel
  · rw [if_neg hfail, if_neg hfail, ← hcancel]
    rfl

/-! ### Requests that are taken -/

theorem Direct.queueOut_eq (h : c.Direct) (length : Nat) :
    c.queueOut length = (.ok (), { c with armed := some length }) := by
  rw [queueOut, if_neg (by simp [h.refusesOut])]

theorem Direct.queueOut (h : c.Direct) (length : Nat) : (c.queueOut length).2.Direct := by
  rw [h.queueOut_eq]
  exact ⟨h.replacesAtOnce, h.refusesOut⟩

end Fastboot.Controller
