import Fastboot.Proofs.Device.DataPhase
import Fastboot.Proofs.Host.Loops

/-!
# Transfers that do not arrive

A host cannot deliver for three reasons (`Undelivered`): the device has left, no request is armed, or there
are more bytes than the request has room for. The first two are found before anything is done, so nothing has
happened. The third is found behind the request, which has been taken by then and is not armed again.

A device arms a request behind a transfer that has come in, and nobody else arms any. With the only one gone
no transfer comes in, so the session is `Deaf` from then on, whatever is done (`Deaf.turns`). Nothing else is
touched, neither the device nor its frames. `undelivered` puts this together.
-/

namespace Fastboot

namespace Device

variable {d : Device}

/-- The device takes nothing any more, or has nothing armed to take it with. -/
def Shut (d : Device) : Prop :=
  d.isHalted = true ∨ d.usb.armed = none

/-- Frames that go out do not open a device. -/
theorem Shut.completeIn (h : d.Shut) (hs : d.Sound none) : d.completeIn.2.Shut := by
  rcases h with hhalted | harmed
  · left
    rcases hcomplete : d.completeIn with ⟨frame, e⟩
    cases hs.collection hcomplete with
    | nothing => exact hhalted
    | unnoticed => exact hhalted
    | followed _ henabled => simp [isHalted, henabled] at hhalted
  · right
    rw [hs.armed_completeIn, harmed]

end Device

namespace Host

variable {h h' e : Host} {settings : Settings} {bytes : ByteArray} {error : HostError}

/-! ### What fails -/

/-- Why a transfer does not arrive, and what becomes of the host. -/
inductive Undelivered (h : Host) (bytes : ByteArray) : HostError → Host → Prop where
  | halted (hhalted : h.device.isHalted = true) : Undelivered h bytes .halted h
  | notArmed (hhalted : h.device.isHalted = false) (harmed : h.device.usb.armed = none) :
      Undelivered h bytes .notArmed h
  | tooLong {length : Nat} (hhalted : h.device.isHalted = false)
      (harmed : h.device.usb.armed = some length) (hlt : length < bytes.size) :
      Undelivered h bytes (.tooLong bytes.size length)
        { h with device := { h.device with usb := { h.device.usb with armed := none } } }

/-- A request is armed that has no room for the bytes. -/
def Overfills (h : Host) (bytes : ByteArray) : Prop :=
  h.device.isHalted = false ∧ ∃ length, h.device.usb.armed = some length ∧ length < bytes.size

theorem undelivered_of_deliver (hdeliver : h.deliver bytes = (.error error, e)) :
    Undelivered h bytes error e := by
  unfold Host.deliver at hdeliver
  split at hdeliver
  · rename_i hhalted
    cases hdeliver
    exact .halted hhalted
  · rename_i hhalted
    rw [Bool.not_eq_true] at hhalted
    cases harmed : h.device.usb.armed with
    | none =>
      have htaken : h.device.usb.takeOut = (none, h.device.usb) := by
        rw [Controller.takeOut, harmed, ← harmed]
      simp only [htaken] at hdeliver
      cases hdeliver
      exact .notArmed hhalted harmed
    | some length =>
      simp only [Controller.takeOut, harmed] at hdeliver
      split at hdeliver
      · cases hdeliver
      · rename_i hlt
        cases hdeliver
        exact .tooLong hhalted harmed (Nat.lt_of_not_le hlt)

/-- To send fails if and as the delivery does. -/
theorem send_eq_error_iff (command : String) :
    h.send command = (.error error, e) ↔ h.deliver command.toUTF8 = (.error error, e) := by
  unfold Host.send
  rcases h.deliver command.toUTF8 with ⟨error' | ⟨⟩, h'⟩
  · simp
  · simp

/-- Nothing has happened, unless there were too many bytes for the request. -/
theorem Undelivered.eq_iff (hu : Undelivered h bytes error e) : e = h ↔ ¬ h.Overfills bytes := by
  cases hu with
  | halted hhalted => simp [Overfills, hhalted]
  | notArmed _ harmed => simp [Overfills, harmed]
  | @tooLong length hhalted harmed hlt =>
    have hover : h.Overfills bytes := ⟨hhalted, length, harmed, hlt⟩
    refine iff_of_false (fun hsame => ?_) (not_not_intro hover)
    have hnone : none = h.device.usb.armed := congrArg (·.device.usb.armed) hsame
    cases hnone.trans harmed

/-! ### Sessions that have gone deaf -/

/-- Nothing that the host sends arrives, and nothing comes of it. -/
def Deaf (h : Host) : Prop :=
  ∀ bytes, ∃ error, h.deliver bytes = (.error error, h)

/-- A request that has too little room is one that is armed. -/
theorem Overfills.not_shut (hover : h.Overfills bytes) : ¬ h.device.Shut := by
  obtain ⟨hhalted, length, harmed, -⟩ := hover
  simp [Device.Shut, hhalted, harmed]

theorem deaf_iff : h.Deaf ↔ h.device.Shut := by
  constructor
  · intro hd
    by_contra hopen
    -- a transfer of no bytes finds room in every request
    obtain ⟨hhalted, harmed⟩ := not_or.mp hopen
    obtain ⟨length, hlength⟩ := Option.ne_none_iff_exists'.mp harmed
    obtain ⟨error, hdeliver⟩ := hd .empty
    have hroom : ByteArray.empty.size ≤ length := Nat.zero_le length
    have hok := deliver_eq_ok_iff.mpr
      ⟨Bool.eq_false_iff.mpr hhalted, ⟨length, hlength, hroom⟩, rfl⟩
    cases hok.symm.trans hdeliver
  · intro hshut bytes
    rcases hdeliver : h.deliver bytes with ⟨error | ⟨⟩, e⟩
    · have hsame := (undelivered_of_deliver hdeliver).eq_iff.mpr fun hover => hover.not_shut hshut
      rw [hsame]
      exact ⟨error, rfl⟩
    · obtain ⟨hhalted, ⟨length, harmed, -⟩, -⟩ := deliver_eq_ok_iff.mp hdeliver
      simp [Device.Shut, hhalted, harmed] at hshut

theorem Deaf.move (hd : h.Deaf) (hc : h.Connected settings) (hmove : Move h h') : h'.Deaf := by
  cases hmove with
  | deliver bytes =>
    -- what does not arrive does not arm a request either
    obtain ⟨error, hdeliver⟩ := hd bytes
    rw [hdeliver]
    exact hd
  | pump =>
    have hshut : h.device.drain.2.Shut := (hc.device.completeFrames_of_step
      (fun ha hs => Device.Shut.completeIn hs ha.sound) (deaf_iff.mp hd) _).2
    exact deaf_iff.mpr hshut

theorem Deaf.moves (hd : h.Deaf) (hc : h.Connected settings) (hmoves : Moves h h') : h'.Deaf := by
  induction hmoves with
  | refl => exact hd
  | tail hbefore hmove ih => exact ih.move (hc.moves hbefore) hmove

/-- What may happen next in a session: the host acts, or others handle the controller and change the board. -/
inductive Turn (h : Host) : Host → Prop where
  | moves {after : Host} (hmoves : Moves h after) : Turn h after
  | withChunk (chunk : Nat) : Turn h (h.withChunk chunk)
  | world {usb : Controller} (husb : h.device.usb.Handled usb) (board : Board) :
      Turn h { h with device := { h.device with usb, board } }

theorem Connected.turn (hc : h.Connected settings) (ht : Turn h h') : h'.Connected settings := by
  cases ht with
  | moves hmoves => exact hc.moves hmoves
  | withChunk chunk => exact ⟨hc.device, Nat.le_max_right chunk 1⟩
  | world husb board => exact hc.world husb board

/-- Others arm no request either. -/
theorem Deaf.turn (hd : h.Deaf) (hc : h.Connected settings) (ht : Turn h h') : h'.Deaf := by
  cases ht with
  | moves hmoves => exact hd.moves hc hmoves
  | withChunk =>
    have hshut : h.device.Shut := deaf_iff.mp hd
    exact deaf_iff.mpr hshut
  | world husb =>
    rcases deaf_iff.mp hd with hhalted | harmed
    · exact deaf_iff.mpr (.inl hhalted)
    · rcases husb.armed_eq with hnone | hsame
      · exact deaf_iff.mpr (.inr hnone)
      · exact deaf_iff.mpr (.inr (hsame.trans harmed))

theorem Deaf.turns (hd : h.Deaf) (hc : h.Connected settings)
    (hturns : Relation.ReflTransGen Turn h h') : h'.Connected settings ∧ h'.Deaf := by
  induction hturns with
  | refl => exact ⟨hc, hd⟩
  | tail _ ht ih => exact ⟨ih.1.turn ht, ih.2.turn ih.1 ht⟩

/-- **A transfer that does not arrive changes nothing, or takes the request.** In every session a delivery
that fails, by itself or in a command that is sent, tells why it has failed and leaves the host as it was: the
device, the request, the frames and their count, so that what could be delivered before can be delivered
after. The one exception is a transfer with more bytes than the request has room for. It takes the request,
and nothing else, and no transfer arrives in that session any more. -/
theorem undelivered (hr : Reachable settings h)
    (hfail : h.deliver bytes = (.error error, e) ∨
      ∃ command : String, bytes = command.toUTF8 ∧ h.send command = (.error error, e)) :
    Undelivered h bytes error e ∧ (e = h ↔ ¬ h.Overfills bytes) ∧
      (h.Overfills bytes → ∀ later, Relation.ReflTransGen Turn e later → later.Deaf) := by
  have hdeliver : h.deliver bytes = (.error error, e) := by
    rcases hfail with hdeliver | ⟨command, rfl, hsend⟩
    · exact hdeliver
    · exact (send_eq_error_iff command).mp hsend
  have hu := undelivered_of_deliver hdeliver
  refine ⟨hu, hu.eq_iff, fun hover later hlater => ?_⟩
  have hdeaf : e.Deaf := by
    -- the request was taken before its length was looked at
    cases hu with
    | halted hhalted => exact absurd (.inl hhalted) hover.not_shut
    | notArmed _ harmed => exact absurd (.inr harmed) hover.not_shut
    | tooLong => exact deaf_iff.mpr (.inr rfl)
  have hreached : Reachable settings e := hr.of_deliver hdeliver
  exact (hdeaf.turns hreached.connected hlater).2

/-- A session that has just begun. -/
def fresh : Host where
  device := started Device.tiny.settings {}
  chunk := 512

theorem reachable_fresh : Reachable Device.tiny.settings fresh :=
  .connect (connect_eq_ok_iff.mpr ⟨(Device.bind_eq_ok_iff.mp Device.bind_tiny).1, rfl⟩)

/-- One byte more than there is room for. -/
def overlong : ByteArray :=
  ⟨Array.replicate 513 97⟩

/-- Behind one byte too many a command is sent, and collects nothing. -/
theorem undelivered_overlong : (fresh.deliver overlong).1 = .error (.tooLong 513 512) ∧
    Undelivered fresh overlong (.tooLong 513 512) (fresh.deliver overlong).2 ∧
    ((fresh.deliver overlong).2.command "getvar:version").2.Deaf := by
  have herror : (fresh.deliver overlong).1 = .error (.tooLong 513 512) := by decide +kernel
  rcases hdeliver : fresh.deliver overlong with ⟨outcome, e⟩
  rw [hdeliver] at herror
  subst herror
  obtain ⟨hu, -, hdeaf⟩ := undelivered reachable_fresh (.inl hdeliver)
  have hover : fresh.Overfills overlong := ⟨by decide +kernel, 512, rfl, by decide +kernel⟩
  exact ⟨rfl, hu, hdeaf hover _ (.single (.moves (moves_command e _)))⟩

/-- A command that arrives, and does not arrive behind one byte too many. -/
theorem refused_of_overlong : Reachable Device.tiny.settings fresh ∧
    (fresh.command "getvar:version").1 = .ok (.okay "0.4") ∧
    (fresh.deliver overlong).1 = .error (.tooLong 513 512) ∧
    (fresh.deliver overlong).2.device.usb.armed ≠ fresh.device.usb.armed ∧
    ((fresh.deliver overlong).2.command "getvar:version").1 = .error .notArmed :=
  ⟨reachable_fresh, by decide +kernel, by decide +kernel, by decide +kernel, by decide +kernel⟩

end Host

end Fastboot
