import Fastboot.Proofs.Device.Restart
import Fastboot.Proofs.Device.Told

/-!
# The log mirrors the wire

Over a run the controller accepts some of the frames that a device offers (`accepted`), and by its own count
these are all the frames that it queues (`Sound.frames_eq`). The log tells of those that carry a status, with
the text that went out: not of one that was refused, and not of the text in the place of which a `FAIL` was
sent. The others carry the next part of an upload (`Target.Serves`).
-/

namespace Fastboot

/-- The data is the part of an upload that comes next. -/
structure Target.Serves (t : Target) (data : ByteArray) : Prop where
  mode_eq : t.transfer.mode = .uploading
  size_pos : 0 < data.size
  size_eq : data.size = min t.transfer.uploadRemaining.toNat t.settings.bufferSize
  read_eq : t.staging.read t.transfer.uploadBytes.toNat data.size = .ok data

namespace Device

variable {d d' : Device} {a : Action} {c : Call} {o : Offer} {data : ByteArray}

/-- The frames that the controller accepts over a run, the first one first. -/
def accepted (d : Device) : List Action → List Offer
  | [] => []
  | a :: actions => (d.accepted? a).toList ++ (d.act a).accepted actions

/-- The frames that are queued over a run, going by what the controller counts. -/
def frames (d : Device) : List Action → List ByteArray
  | [] => []
  | a :: actions => (d.frame? a).toList ++ (d.act a).frames actions

/-! ### Status frames -/

/-- A status frame is a response that fits. -/
theorem Offer.exists_response (h : o.isChunk = false) : ∃ response : Response,
    o.frame = frameOf response ∧ response.text.utf8ByteSize ≤ Frame.capacity := by
  cases o with
  | reply r =>
    obtain ⟨f, -, htext⟩ := r.exists_frame_fitted
    exact ⟨r.fitted.response, rfl, htext ▸ f.fits⟩
  | chunk => cases h

/-- What is told of status frames is what they say. -/
theorem Offer.map_texts (offers : List Offer) :
    (offers.filterMap Offer.text?).map String.toUTF8 =
      (offers.filter fun o => !o.isChunk).map Offer.frame := by
  induction offers with
  | nil => rfl
  | cons o offers ih =>
    cases o with
    | reply r => exact congrArg (r.fitted.response.text.toUTF8 :: ·) ih
    | chunk => exact ih

/-- A status frame is told of if the controller accepts it, and nothing else is. -/
theorem Sound.answers_act (h : d.Sound none) (a : Action) :
    (d.act a).answers = d.answers ++ ((d.accepted? a).bind Offer.text?).toList := by
  by_cases ha : d.CutsOff a
  · obtain ⟨hevents, -, hnone⟩ := ha.act
    rw [Target.answers, hevents, hnone, Option.bind_none, Option.toList_none, List.append_nil]
    rfl
  · exact (h.tells_act ha).answers_eq

theorem Sound.answers_run (h : d.Sound none) (actions : List Action) :
    (d.run actions).answers = d.answers ++ (d.accepted actions).filterMap Offer.text? := by
  induction actions generalizing d with
  | nil => exact (List.append_nil _).symm
  | cons a actions ih =>
    rw [run_cons, ih (h.act a), h.answers_act, accepted, List.filterMap_append, List.append_assoc]
    congr 2
    cases d.accepted? a with
    | none => rfl
    | some o => cases htext : o.text? <;> simp [htext]

/-! ### Frames -/

/-- What the controller accepts is what it counts. -/
theorem Sound.frame?_eq (h : d.Sound none) (a : Action) :
    d.frame? a = (d.accepted? a).map Offer.frame := by
  cases a with
  | world => rfl
  | call c =>
    rw [h.frame?_call, accepted?]
    cases d.offer? c with
    | none => simp
    | some o =>
      cases hfail : d.usb.failNext <;> simp [Option.filter, accepts_iff_failNext, hfail]

theorem Sound.frames_eq (h : d.Sound none) (actions : List Action) :
    d.frames actions = (d.accepted actions).map Offer.frame := by
  induction actions generalizing d with
  | nil => rfl
  | cons a actions ih =>
    rw [frames, accepted, List.map_append, ih (h.act a), h.frame?_eq]
    cases d.accepted? a <;> rfl

/-! ### Chunks -/

/-- A chunk is the next part of an upload. -/
theorem Taking.serves (h : d.Sound none) (ht : Taking d c d' (some (.chunk data))) :
    d'.usb = d.usb ∧ d'.Serves data := by
  rcases ht with _ | _ | ⟨-, hr⟩ | ⟨-, hp⟩
  · cases hr
  · cases hp with
    | chunk _ events hnext hremaining hdata =>
      have hsize := Buffer.size_of_read hdata
      have hbuffer := h.valid.bufferSize_pos
      refine ⟨rfl, ⟨(Transfer.mode_fetched _ _).trans (h.mode_eq hnext), by omega, hsize, ?_⟩⟩
      rwa [← hsize] at hdata

/-- It does not move when it is queued. -/
theorem serves_hand (h : d.Serves data) (haccepts : d.Accepts (.chunk data)) :
    (d.hand (some (.chunk data))).Serves data := by
  obtain ⟨events, hhand⟩ := hand_of_accepts haccepts
  rw [hhand]
  exact ⟨h.mode_eq, h.size_pos, h.size_eq, h.read_eq⟩

/-- **What carries no status carries data of an upload**: the next part of it. -/
theorem Sound.serves_act (h : d.Sound none) (ha : d.accepted? a = some (.chunk data)) :
    (d.act a).Serves data := by
  cases a with
  | world => cases ha
  | call c =>
    obtain ⟨hoffer, haccepts⟩ := Option.filter_eq_some_iff.mp ha
    have ht := taking_take h c
    rw [show (d.take c).2 = some (.chunk data) from hoffer] at ht
    obtain ⟨husb, hserves⟩ := ht.serves h
    rw [Device.act, toTarget_call, show (d.take c).2 = some (.chunk data) from hoffer]
    refine serves_hand hserves ?_
    rw [Accepts, husb]
    exact of_decide_eq_true haccepts

/-! ### Runs -/

/-- **The log mirrors the wire.** Over every run of a device, whatever fails in it, the answers in its log are
the status frames that its controller has accepted, each with the text that went out, and every other frame that
was accepted is the next part of an upload. -/
theorem mirrored_run {settings : Settings} {usb : Controller} {board : Board}
    (hbind : bind settings usb board = .ok d) (actions : List Action) :
    d.frames actions = (d.accepted actions).map Offer.frame ∧
    (d.run actions).answers.map String.toUTF8 =
      ((d.accepted actions).filter fun o => !o.isChunk).map Offer.frame ∧
    (∀ o ∈ d.accepted actions, o.isChunk = false → ∃ response : Response,
      o.frame = frameOf response ∧ response.text.utf8ByteSize ≤ Frame.capacity) ∧
    ∀ before a after data, actions = before ++ a :: after →
      (d.run before).accepted? a = some (.chunk data) →
        (d.run (before ++ [a])).Serves data := by
  have hsound := sound_of_bind hbind
  have hstart : d.answers = [] := by
    obtain ⟨-, rfl⟩ := bind_eq_ok_iff.mp hbind
    rfl
  refine ⟨hsound.frames_eq actions, ?_, fun o _ ho => o.exists_response ho, ?_⟩
  · rw [hsound.answers_run, hstart, List.nil_append, Offer.map_texts]
  · intro before a after data _ ha
    rw [run_append, run_cons, run_nil]
    exact (hsound.run before).serves_act ha

/-- A device with a name that does not fit an answer. -/
def wordy : Device where
  toTarget := .start
    { stagingCapacity := 64, bufferSize := 512,
      facts := { product := "a board with a name that is too long for the frame of an answer" } } {}
  usb := {}

/-- A session in which one answer is too long and another is refused, with a download and an upload. -/
def wordySession : List Action :=
  [.call .enable, asks "getvar:version", asks "getvar:product", .world (·.failNextQueue) id,
    asks "getvar:version", asks "download:00000004", .call (.received .completed "abcd".toUTF8),
    asks "upload", .world (·.completeIn.2) id, .call (.sent .completed 12),
    .world (·.completeIn.2) id, .call (.sent .completed 4)]

theorem mirrored_run_wordy : bind wordy.settings {} {} = .ok wordy ∧
    wordy.frames wordySession = ["OKAY0.4".toUTF8, "FAILresponse too long".toUTF8,
      "DATA00000004".toUTF8, "OKAY".toUTF8, "DATA00000004".toUTF8, "abcd".toUTF8, "OKAY".toUTF8] ∧
    (wordy.run wordySession).answers.map String.toUTF8 =
      ["OKAY0.4".toUTF8, "FAILresponse too long".toUTF8, "DATA00000004".toUTF8, "OKAY".toUTF8,
        "DATA00000004".toUTF8, "OKAY".toUTF8] ∧
    (wordy.run wordySession).answers.map String.toUTF8 =
      ((wordy.accepted wordySession).filter fun o => !o.isChunk).map Offer.frame := by
  have hbind : bind wordy.settings {} {} = .ok wordy := rfl
  exact ⟨hbind, by decide +kernel, by decide +kernel, (mirrored_run hbind wordySession).2.1⟩

end Device

end Fastboot
