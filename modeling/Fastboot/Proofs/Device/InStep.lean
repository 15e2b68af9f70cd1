import Fastboot.Proofs.Device.DataPhase
import Fastboot.Proofs.Device.Flight

/-!
# Mode and continuation in step

The mode of an exchange says whose the endpoints are, and its continuation what the frame that is queued
leads to when it completes. Commands and completions change the mode, and the frame that comes of them
brings the continuation. In between the two need not agree, and a frame that is refused leaves them apart:
an upload whose header is refused stays one, with nothing to go on with.

Over a controller that takes every frame they are in step after every call (`inStep_run`), whatever
completions it makes up. The proof goes by `Due`, which holds while a frame is on offer too: it speaks of
what is upcoming, the continuation that the frame will bring.
-/

namespace Fastboot

/-- Mode and continuation agree: the next completion goes on with an upload during one and only then, with
an action only between data phases, and with nothing during a download. What goes on, goes on with a frame
in flight. -/
structure Transfer.InStep (t : Transfer) : Prop where
  uploading_iff : t.mode = .uploading ↔ t.next = .uploadChunk
  idle_of_exit (action : Exit) : t.next = .exit action → t.mode = .idle
  done_of_downloading : t.mode = .downloading → t.next = .done
  inFlight_of_next : t.next ≠ .done → t.inFlight = true

/-- The command that starts an upload is answered by its header, which goes on with the first chunk. -/
theorem Command.Outcome.next_of_uploading {command : String} {t t' : Target} {reply : Reply}
    (h : Outcome command t reply t') (hidle : t.transfer.mode = .idle)
    (hmode : t'.transfer.mode = .uploading) : (Device.Offer.reply reply).next = .uploadChunk := by
  have hsame : ∀ {s : Transfer}, s.mode = t.transfer.mode → s.mode ≠ .uploading := fun hs => by
    rw [hs, hidle]
    nofun
  cases h with
  | answer => exact absurd hmode (hsame rfl)
  | exit => exact absurd hmode (hsame rfl)
  | refuse => exact absurd hmode (hsame rfl)
  | request => exact absurd hmode (hsame rfl)
  | download =>
    rw [Target.transfer_transition] at hmode
    cases hmode
  | upload => exact Device.Offer.next_data _ _

namespace Device

variable {d d' : Device} {c : Call} {a : Action} {actions : List Action} {offer : Option Offer}
  {data : ByteArray} {status : TransferStatus} {actual : Nat}

/-- An upload has something upcoming, and what is upcoming without a frame on offer has one in flight. -/
structure Due (d : Device) (offer : Option Offer) : Prop extends Sound d offer where
  upcoming_of_uploading : d.transfer.mode = .uploading → d.upcoming offer = .uploadChunk
  inFlight_of_next : offer = none → d.transfer.next ≠ .done → d.transfer.inFlight = true

/-- The controller takes every frame that a run has for it. -/
def Unrefused (d : Device) : List Action → Prop
  | [] => True
  | a :: actions =>
    (∀ c o, a = .call c → d.offer? c = some o → d.Accepts o) ∧ (d.act a).Unrefused actions

/-- The world outside the device does not make its controller fail. -/
def Action.Works : Action → Prop
  | .call _ => True
  | .world usb _ => ∀ u, u.failNext = false → (usb u).failNext = false

/-! ### Controllers that take every frame -/

/-- A call does not make the controller fail. -/
theorem Sound.failNext_call (h : d.Sound none) (hfail : d.usb.failNext = false) (c : Call) :
    (d.call c).usb.failNext = false := by
  obtain ⟨armed, hcall⟩ := d.usb_call c
  rcases (taking_take h c).usb_eq with rfl | rfl | husb
  · obtain ⟨armed, henable⟩ := d.usb_enable
    rw [henable]
    exact hfail
  · rcases d.usb_disable with hdisable | hdisable
    · rw [hdisable]
      exact hfail
    · rw [hdisable, Controller.cancelIn_eq]
      exact hfail
  · rw [hcall]
    cases hoffer : (d.take c).2 with
    | none => exact husb ▸ hfail
    | some o => exact failNext_hand_some _ o

/-- A controller that is never made to fail takes every frame. -/
theorem Sound.unrefused (h : d.Sound none) (hfail : d.usb.failNext = false)
    (hworks : ∀ a ∈ actions, a.Works) : d.Unrefused actions := by
  induction actions generalizing d with
  | nil => trivial
  | cons a actions ih =>
    refine ⟨fun _ _ _ _ => accepts_iff_failNext.mpr hfail,
      ih (h.act a) ?_ fun b hb => hworks b (List.mem_cons_of_mem a hb)⟩
    cases a with
    | call c => exact h.failNext_call hfail c
    | world usb board => exact hworks _ List.mem_cons_self d.usb hfail

/-! ### The step -/

theorem Due.of_reception (h : d.Due none) (henabled : d.lifecycle = .enabled)
    (hr : Reception d data status d' offer) : d'.Due offer := by
  refine { h.toSound.of_reception henabled hr with
    upcoming_of_uploading := fun hmode => ?_
    inFlight_of_next := fun hoffer hnext => ?_ }
  · cases hr with
    | lost => exact h.upcoming_of_uploading hmode
    | refused _ _ _ hbefore =>
      rw [Transfer.mode_interrupted hbefore] at hmode
      cases hmode
    | command text reply target events hbefore _ _ hrun =>
      have houtcome := Command.outcome_dispatch text
        { d.toTarget with transfer := d.transfer.interrupted, events }
      rw [hrun] at houtcome
      exact houtcome.next_of_uploading (Transfer.mode_interrupted hbefore) hmode
    | broken => cases hmode
    | partly _ _ hbefore => cases hbefore.symm.trans hmode
    | last => cases hmode
  · -- a transfer that nothing is offered for leaves the frame in flight alone
    cases hr with
    | lost => exact h.inFlight_of_next rfl hnext
    | partly => exact h.inFlight_of_next rfl hnext
    | _ => cases hoffer

theorem Due.of_progression (h : d.Due none) (henabled : d.lifecycle = .enabled)
    (hp : Progression d actual status d' offer) : d'.Due offer := by
  refine { h.toSound.of_progression henabled hp with
    upcoming_of_uploading := fun hmode => ?_
    inFlight_of_next := fun hoffer hnext => ?_ }
  · cases hp with
    | stop _ hstop =>
      have hchunk := h.upcoming_of_uploading hmode
      rw [upcoming_none] at hchunk
      rcases hstop with hdone | ⟨-, hne⟩
      · cases hdone.symm.trans hchunk
      · exact absurd hchunk hne
    | broken => cases hmode
    | chunk => rfl
    | last => cases hmode
    | exit action hnext =>
      have hidle : d.transfer.mode = .idle := h.idle_eq action hnext
      cases hidle.symm.trans hmode
  · cases hp with
    | stop => exact absurd rfl hnext
    | exit => exact absurd rfl hnext
    | _ => cases hoffer

theorem Due.of_taking (h : d.Due none) (ht : Taking d c d' offer) : d'.Due offer := by
  have hsound := h.toSound.of_taking ht
  cases ht with
  | restart =>
    exact { hsound with
      upcoming_of_uploading := nofun
      inFlight_of_next := fun _ hnext => absurd rfl hnext }
  | ignored => exact h
  | received henabled hr => exact h.of_reception henabled hr
  | sent henabled hp => exact h.of_progression henabled hp

/-- A frame that is taken brings what was upcoming with it. -/
theorem Due.hand (h : d.Due offer) (haccepts : ∀ o, offer = some o → d.Accepts o) :
    (d.hand offer).Due none := by
  cases offer with
  | none => exact h
  | some o =>
    have htransfer : (d.hand (some o)).transfer = d.transfer.accepted o := by
      rw [transfer_hand_some, if_pos (haccepts o rfl)]
    exact { h.toSound.hand with
      upcoming_of_uploading := fun hmode => by
        rw [htransfer] at hmode
        rw [upcoming_none, htransfer]
        exact h.upcoming_of_uploading hmode
      inFlight_of_next := fun _ _ => by
        rw [htransfer]
        rfl }

theorem Due.call (h : d.Due none) (haccepts : ∀ o, d.offer? c = some o → d.Accepts o) :
    (d.call c).Due none := by
  have ht := taking_take h.toSound c
  have htaken : ∀ o, (d.take c).2 = some o → (d.take c).1.Accepts o := fun o ho => by
    rcases ht.usb_eq with rfl | rfl | husb
    · cases ho
    · cases ho
    · rw [Accepts, husb]
      exact haccepts o ho
  obtain ⟨usb, requested, hcall⟩ := d.call_eq c
  have hhand := (h.of_taking ht).hand htaken
  rw [hcall]
  exact { hhand with }

/-! ### The run -/

theorem Due.run (h : d.Due none) (haccepts : d.Unrefused actions) : (d.run actions).Due none := by
  induction actions generalizing d with
  | nil => exact h
  | cons a actions ih =>
    obtain ⟨hfirst, hrest⟩ := haccepts
    refine ih ?_ hrest
    cases a with
    | call c => exact h.call fun o => hfirst c o rfl
    | world usb board => exact { h with }

/-- Between calls, what is upcoming is the continuation. -/
theorem Due.inStep (h : d.Due none) : d.transfer.InStep where
  uploading_iff := ⟨h.upcoming_of_uploading, h.mode_eq⟩
  idle_of_exit := h.idle_eq
  done_of_downloading := h.next_of_downloading
  inFlight_of_next := h.inFlight_of_next rfl

/-- **Mode and continuation stay in step** over every run in which no frame is refused: calls may come in
any order, and a completion need not have had a frame to complete. -/
theorem inStep_run {settings : Settings} {usb : Controller} {board : Board}
    (hbind : bind settings usb board = .ok d) (haccepts : d.Unrefused actions) :
    (d.run actions).transfer.InStep := by
  have hstart : d.Due none := by
    refine { sound_of_bind hbind with
      upcoming_of_uploading := ?_
      inFlight_of_next := ?_ } <;> obtain ⟨-, rfl⟩ := bind_eq_ok_iff.mp hbind
    · nofun
    · exact fun _ hnext => absurd rfl hnext
  exact (hstart.run haccepts).inStep

/-- A device with nothing but its buffers. -/
def bare : Device where
  toTarget := .start {} {}
  usb := {}

theorem bind_bare : bind {} {} {} = .ok bare :=
  bind_eq_ok_iff.mpr ⟨Settings.valid_default, rfl⟩

/-- A session in which data is downloaded and asked for again, with completions made up before its first
command and between the two. -/
def readingBack : List Action :=
  [.call .enable, .call (.sent .completed 4),
    asks "download:00000004", .call (.sent .completed 12), .call (.received .completed "data".toUTF8),
    .call (.sent (.failed 5) 0), .call (.sent .completed 4), asks "upload"]

/-- An upload that was asked for goes on with its first chunk. -/
theorem inStep_run_readingBack : bare.Unrefused readingBack ∧
    (bare.run readingBack).transfer.mode = .uploading ∧
    (bare.run readingBack).transfer.next = .uploadChunk ∧
    (bare.run readingBack).transfer.inFlight = true := by
  have haccepts : bare.Unrefused readingBack := by
    refine (sound_of_bind bind_bare).unrefused rfl fun a ha => ?_
    simp only [readingBack, List.mem_cons, List.not_mem_nil, or_false] at ha
    rcases ha with rfl | rfl | rfl | rfl | rfl | rfl | rfl | rfl <;> trivial
  have hmode : (bare.run readingBack).transfer.mode = .uploading := by decide +kernel
  have hinStep := inStep_run bind_bare haccepts
  have hnext := hinStep.uploading_iff.mp hmode
  exact ⟨haccepts, hmode, hnext, hinStep.inFlight_of_next (by rw [hnext]; nofun)⟩

/-- An upload whose header is refused has nothing to go on with. -/
example :
    let d := bare.run (readingBack.dropLast ++
      [.world Controller.failNextQueue id, asks "upload"])
    d.transfer.mode = .uploading ∧ d.transfer.next = .done := by
  decide +kernel

end Device

end Fastboot
