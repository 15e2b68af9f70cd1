import Fastboot.Proofs.Device.Bus
import Fastboot.Proofs.Response

/-!
# The start of a data phase

A data phase starts with a command that is answered by `DATA` and a size: `d.Announces verb command size`
says that a device `d` does so. The answer always fits its frame (`Offer.frame_data`). What the command has
made of the device is then told by its outcome (`Sound.exists_announced`), and there is one for each of the
two verbs that open a data phase.
-/

namespace Fastboot.Device

variable {d : Device} {verb : Command.Verb} {command : ByteArray} {size : UInt32}

/-! ### The frames of a data phase -/

/-- The bytes of a status frame. -/
def frameOf (response : Response) : ByteArray :=
  response.text.toUTF8

/-- The start of a data phase always fits. -/
theorem fitted_data (size : UInt32) (next : Continuation) :
    (Reply.mk (.data size) next).fitted = ⟨.data size, next⟩ :=
  Reply.fitted_of_le (Response.utf8ByteSize_text_data size)

@[simp]
theorem Offer.frame_data (size : UInt32) (next : Continuation) :
    (Offer.reply ⟨.data size, next⟩).frame = frameOf (.data size) := by
  rw [Offer.frame, fitted_data]
  rfl

@[simp]
theorem Offer.next_data (size : UInt32) (next : Continuation) :
    (Offer.reply ⟨.data size, next⟩).next = next := by
  rw [Offer.next, fitted_data]

@[simp]
theorem Offer.frame_okay : (Offer.reply .okay).frame = frameOf (.okay "") := by
  rw [Offer.frame, Reply.fitted_okay]
  rfl

/-- A refusal goes out as one, whether its reason fits or not. -/
theorem Offer.exists_frame_ofFault (fault : Fault) :
    ∃ reason, (Offer.reply (.ofFault fault)).frame = frameOf (.fail reason) := by
  rw [Offer.frame, Reply.fitted]
  split
  · exact ⟨fault.message, rfl⟩
  · exact ⟨Fault.responseTooLong.message, rfl⟩

/-- Two parts of some data that meet make up its beginning. -/
theorem extract_append_of_le {data : ByteArray} {j k : Nat} (hjk : j ≤ k) (n : Nat) (hkn : k ≤ n) :
    data.extract j k ++ data.extract k n = data.extract j n := by
  rw [ByteArray.extract_append_extract, Nat.min_eq_left hjk, Nat.max_eq_right hkn]

/-! ### The command that starts one -/

/-- A device takes a command with that verb, and answers it by `DATA` and the size. -/
structure Announces (d : Device) (verb : Command.Verb) (command : ByteArray) (size : UInt32) :
    Prop where
  verb_eq : (commandText? command).bind Command.Verb.ofCommand? = some verb
  offer_eq : ∃ next,
    d.offer? (.received .completed command) = some (.reply ⟨.data size, next⟩)
  pending_eq :
    (d.turn (.received .completed command)).usb.pending = some (frameOf (.data size))

/-- A frame that is queued in answer to a transfer was taken by the controller. -/
theorem Sound.ready_of_announces (h : d.Sound none) (ha : d.Announces verb command size) :
    d.Ready none := by
  obtain ⟨next, hnext⟩ := ha.offer_eq
  have henabled := enabled_of_offer? hnext
  obtain ⟨d', offer, hr, hoffer, hturn⟩ := h.exists_reception henabled .completed command
  obtain rfl := hoffer.symm.trans hnext
  have hpending := ha.pending_eq
  rw [hturn, pending_arm, pending_hand_some, hr.usb_eq] at hpending
  refine ⟨h, henabled, ?_⟩
  -- a controller that was due to fail would have no frame now
  by_contra hfail
  rw [if_pos (Bool.not_eq_false _ ▸ hfail)] at hpending
  cases hpending

/-- What starts a data phase is the outcome of its command, with the answer queued behind it. -/
theorem Sound.exists_announced (h : d.Sound none) (ha : d.Announces verb command size) :
    ∃ text next target events inbound, Command.Verb.ofCommand? text = some verb ∧
      Command.Outcome text { d.toTarget with transfer := d.transfer.interrupted, events }
        ⟨.data size, next⟩ target ∧
      Handed { d with toTarget := target, inbound } (some (.reply ⟨.data size, next⟩))
        (d.turn (.received .completed command)) ∧
      (d.turn (.received .completed command)).Ready none := by
  obtain ⟨d', offer, hr, hoffer, hhanded, hready⟩ :=
    (h.ready_of_announces ha).exists_reception .completed command
  obtain ⟨next, hnext⟩ := ha.offer_eq
  have hdata := hoffer.symm.trans hnext
  cases hr with
  | refused => cases hdata
  | partly => cases hdata
  | last => cases hdata
  | command text reply target events _ _ htext hrun =>
    cases hdata
    have houtcome := Command.outcome_dispatch text
      { d.toTarget with transfer := d.transfer.interrupted, events }
    rw [hrun] at houtcome
    have hverb := ha.verb_eq
    rw [htext, Option.bind_some] at hverb
    exact ⟨text, next, target, events, _, hverb, houtcome, hhanded, hready⟩

/-- A device with a staging buffer of a few bytes. -/
def tiny : Device where
  toTarget := .start { stagingCapacity := 64, bufferSize := 512 } {}
  usb := {}

theorem bind_tiny : bind tiny.settings {} {} = .ok tiny :=
  rfl

end Fastboot.Device
