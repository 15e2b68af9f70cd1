import Fastboot.Proofs.Controller
import Mathlib.Data.List.Basic

/-!
# No frame is lost and none is made up

A controller is used by queueing, replacing, cancelling and completing frames, and by making it fail.
`c.accepted uses` lists the frames that it has accepted over a list of such `Use`s, and `c.refused uses`
those that it has not; between them they are all the frames that were offered.

A frame that is accepted is queued, and later it is settled: it goes out or it is cancelled. There is
room for one, so frames are settled in the order in which they were accepted, and the one still queued
is the last of them. `Accounts` says so of a controller and of the frames that it has accepted, and
every use keeps it true, whether a failure hits it before the old frame is cancelled or behind.
`conserved_follow` is what it comes to.
-/

namespace Fastboot.Controller

/-- One thing that a controller is used for. -/
inductive Use where
  | queueIn (frame : ByteArray)
  | replaceIn (frame : ByteArray)
  | cancelIn
  | completeIn
  | failNextQueue

/-- The frame that a use offers to the controller. -/
def Use.frame? : Use → Option ByteArray
  | queueIn frame | replaceIn frame => some frame
  | cancelIn | completeIn | failNextQueue => none

/-- What comes of a use, and the controller after it. -/
def use (c : Controller) : Use → Except QueueError Unit × Controller
  | .queueIn frame => c.queueIn frame
  | .replaceIn frame => c.replaceIn frame
  | .cancelIn => (.ok (), c.cancelIn)
  | .completeIn => (.ok (), c.completeIn.2)
  | .failNextQueue => (.ok (), c.failNextQueue)

/-- The controller after a list of uses. -/
def follow (c : Controller) (uses : List Use) : Controller :=
  uses.foldl (fun c u => (c.use u).2) c

/-- The frame that a use offers, if it is accepted. -/
def accepted? (c : Controller) (u : Use) : Option ByteArray :=
  if (c.use u).1 = .ok () then u.frame? else none

/-- The frame that a use offers, if it is refused. -/
def refused? (c : Controller) (u : Use) : Option ByteArray :=
  if (c.use u).1 = .ok () then none else u.frame?

/-- The frames that are accepted over a list of uses, the first one first. -/
def accepted (c : Controller) : List Use → List ByteArray
  | [] => []
  | u :: uses => (c.accepted? u).toList ++ (c.use u).2.accepted uses

/-- The frames that are refused over a list of uses, the first one first. -/
def refused (c : Controller) : List Use → List ByteArray
  | [] => []
  | u :: uses => (c.refused? u).toList ++ (c.use u).2.refused uses

variable {c : Controller} {taken : List ByteArray}

@[simp]
theorem follow_nil (c : Controller) : c.follow [] = c := rfl

@[simp]
theorem follow_cons (c : Controller) (u : Use) (uses : List Use) :
    c.follow (u :: uses) = (c.use u).2.follow uses := rfl

/-- A frame that is offered is accepted or refused, and never both. -/
theorem countP_accepted_add_refused (p : ByteArray → Bool) (c : Controller) (uses : List Use) :
    (c.accepted uses).countP p + (c.refused uses).countP p =
      (uses.filterMap Use.frame?).countP p := by
  induction uses generalizing c with
  | nil => rfl
  | cons u uses ih =>
    have hfirst : (c.accepted? u).toList.countP p + (c.refused? u).toList.countP p =
        u.frame?.toList.countP p := by
      unfold accepted? refused?
      split_ifs
      · exact Nat.add_zero _
      · exact Nat.zero_add _
    have hoffered : (u :: uses).filterMap Use.frame? =
        u.frame?.toList ++ uses.filterMap Use.frame? := by
      cases hframe : u.frame? <;> simp [hframe]
    rw [accepted, refused, hoffered, List.countP_append, List.countP_append, List.countP_append,
      ← hfirst, ← ih (c.use u).2]
    omega

/-! ### The accounts of a controller -/

/-- The frames `taken` are those that a controller has accepted. The one that is queued came last; those
before it are settled: some have gone out, in this order, and the others were cancelled. -/
def Accounts (c : Controller) (taken : List ByteArray) : Prop :=
  ∃ settled, taken = settled ++ c.pending.toList ∧ c.sent.toList.Sublist settled ∧
    settled.length = c.sent.size + c.cancelled

/-- A new controller has accepted nothing. -/
theorem accounts_new (maxPacket : Nat) (replacesAtOnce : Bool) :
    Accounts { maxPacket, replacesAtOnce } [] :=
  ⟨[], rfl, .slnil, rfl⟩

/-- A frame that is cancelled is settled. -/
theorem Accounts.cancelIn (h : c.Accounts taken) : c.cancelIn.Accounts taken := by
  obtain ⟨settled, htaken, hsent, hlength⟩ := h
  rw [cancelIn_eq]
  have hsublist : c.sent.toList.Sublist taken :=
    htaken ▸ hsent.trans (List.sublist_append_left _ _)
  refine ⟨taken, (List.append_nil taken).symm, hsublist, ?_⟩
  rw [htaken, List.length_append, hlength]
  cases c.pending <;> rfl

/-- A frame that goes out is settled. -/
theorem Accounts.completeIn (h : c.Accounts taken) : c.completeIn.2.Accounts taken := by
  unfold Controller.completeIn
  split
  · exact h
  · rename_i frame hpending
    obtain ⟨settled, htaken, hsent, hlength⟩ := h
    rw [hpending, Option.toList_some] at htaken
    refine ⟨taken, (List.append_nil taken).symm, ?_, ?_⟩
    · rw [Array.toList_push, htaken]
      exact hsent.append (.refl _)
    · rw [htaken, List.length_append, hlength, Array.size_push]
      exact Nat.add_right_comm _ _ _

/-- A frame that is accepted while none is queued. -/
theorem Accounts.accept (h : c.Accounts taken) (hpending : c.pending = none) (frame : ByteArray) :
    { c with pending := some frame }.Accounts (taken ++ [frame]) := by
  obtain ⟨settled, htaken, hsent, hlength⟩ := h
  rw [hpending, Option.toList_none, List.append_nil] at htaken
  rw [htaken]
  exact ⟨settled, rfl, hsent, hlength⟩

/-- Each use keeps the accounts. -/
theorem Accounts.use (h : c.Accounts taken) (u : Use) :
    (c.use u).2.Accounts (taken ++ (c.accepted? u).toList) := by
  cases u with
  | queueIn frame =>
    rw [accepted?, Controller.use, Controller.queueIn]
    by_cases hfail : c.failNext = true
    · rw [if_pos hfail, if_neg nofun, Option.toList_none, List.append_nil]
      exact h
    by_cases hbusy : c.pending.isSome = true
    · rw [if_neg hfail, if_pos hbusy, if_neg nofun, Option.toList_none, List.append_nil]
      exact h
    · rw [if_neg hfail, if_neg hbusy, if_pos rfl]
      exact h.accept (Option.not_isSome_iff_eq_none.mp hbusy) frame
  | replaceIn frame =>
    rw [accepted?, Controller.use, replaceIn_eq]
    by_cases hfail : c.failNext = true
    · rw [if_pos hfail, if_neg nofun, Option.toList_none, List.append_nil]
      exact h.cancelIn
    · rw [if_neg hfail, if_pos rfl]
      exact h.cancelIn.accept (by rw [cancelIn_eq]) frame
  | cancelIn =>
    rw [accepted?, Use.frame?, ite_self, Option.toList_none, List.append_nil]
    exact h.cancelIn
  | completeIn =>
    rw [accepted?, Use.frame?, ite_self, Option.toList_none, List.append_nil]
    exact h.completeIn
  | failNextQueue =>
    rw [accepted?, Use.frame?, ite_self, Option.toList_none, List.append_nil]
    exact h

/-- All uses keep the accounts. -/
theorem Accounts.follow (h : c.Accounts taken) (uses : List Use) :
    (c.follow uses).Accounts (taken ++ c.accepted uses) := by
  induction uses generalizing c taken with
  | nil =>
    rw [accepted, List.append_nil]
    exact h
  | cons u uses ih =>
    rw [accepted, ← List.append_assoc]
    exact ih (h.use u)

/-- **Frames are conserved.** Whatever a new controller is used for, the frames that it has accepted are
those that went out, those that were cancelled, and the one that is queued. They go out in the order in
which they were accepted, and the one that is queued was accepted last. Whichever frames are counted, no
more of them go out than were accepted, and those that were refused make up the rest of those offered. -/
theorem conserved_follow (maxPacket : Nat) (replacesAtOnce : Bool) (uses : List Use) :
    let start : Controller := { maxPacket, replacesAtOnce }
    let c := start.follow uses
    let taken := start.accepted uses
    taken.length = c.sent.size + c.cancelled + (if c.pending.isSome then 1 else 0) ∧
      c.sent.toList.Sublist taken ∧
      (∀ frame ∈ c.pending, taken.getLast? = some frame) ∧
      ∀ counts : ByteArray → Bool, c.sent.toList.countP counts ≤ taken.countP counts ∧
        taken.countP counts + (start.refused uses).countP counts =
          (uses.filterMap Use.frame?).countP counts := by
  intro start c taken
  have haccounts : c.Accounts taken := (accounts_new maxPacket replacesAtOnce).follow uses
  obtain ⟨settled, htaken, hsent, hlength⟩ := haccounts
  have hsublist : c.sent.toList.Sublist taken :=
    htaken ▸ hsent.trans (List.sublist_append_left settled _)
  refine ⟨?_, hsublist, fun frame hpending => ?_, fun counts => ⟨hsublist.countP_le, ?_⟩⟩
  · rw [htaken, List.length_append, hlength]
    cases c.pending <;> rfl
  · rw [htaken, Option.mem_def.mp hpending, Option.toList_some, List.getLast?_concat]
  · exact countP_accepted_add_refused counts start uses

end Fastboot.Controller
