import Fastboot.Proofs.Command.Deed
import Fastboot.Proofs.Device.Run

/-!
# What calls do to the board

A command is all that reaches the board of a device, but for its platform, which an action that ends the
session changes as well. `Deed d c offer b` says so of a call `c` that leaves the board as `b`, with the
frame on `offer` that tells what became of the command. `Sound.deed_call` is what statements about the board
are derived from, together with what they say of a single command.
-/

namespace Fastboot.Device

variable {d d' : Device} {c : Call} {offer : Option Offer} {data : ByteArray} {status : TransferStatus}
  {actual : Nat}

/-- The board that a call leaves behind, and the frame that is offered for the call. -/
inductive Deed (d : Device) : Call → Option Offer → Board → Prop where
  /-- A command, on a target that has the board of the device. -/
  | command {data : ByteArray} {text : String} {reply : Reply} {t : Target} {b : Board}
      (hmode : d.transfer.mode ≠ .downloading) (htext : commandText? data = some text)
      (hboard : t.board = d.board) (h : Command.Deed text t reply b) :
      Deed d (.received .completed data) (some (.reply reply)) b
  /-- What comes in, if anything does, is not a command, or it is refused. -/
  | other {c : Call} {offer : Option Offer} {platform : Platform}
      (hoffer : ∀ data reply, c = .received .completed data → offer = some (.reply reply) →
        d.transfer.mode = .downloading ∨ ∃ fault, reply = .ofFault fault) :
      Deed d c offer { d.board with platform }

theorem Progression.board_eq (hp : Progression d actual status d' offer) :
    ∃ platform, d'.board = { d.board with platform } := by
  cases hp <;> exact ⟨_, rfl⟩

theorem Reception.deed (hr : Reception d data status d' offer) :
    Deed d (.received status data) offer d'.board := by
  cases hr with
  | lost => exact .other nofun
  | broken => exact .other nofun
  | partly => exact .other nofun
  | refused fault => exact .other fun _ _ _ hreply => .inr ⟨fault, by cases hreply; rfl⟩
  | last _ _ _ hmode => exact .other fun _ _ _ _ => .inl hmode
  | command text reply target events hmode _ htext hrun =>
    let t : Target := { d.toTarget with transfer := d.transfer.interrupted, events }
    have hboard : t.board = d.board := rfl
    have hdeed := Command.deed_dispatch text t
    rw [hrun] at hdeed
    exact .command hmode htext hboard hdeed

theorem Taking.deed (ht : Taking d c d' offer) : Deed d c offer d'.board := by
  cases ht with
  | received _ hr => exact hr.deed
  | sent _ hp =>
    obtain ⟨platform, hboard⟩ := hp.board_eq
    rw [hboard]
    exact .other nofun
  | restart => exact .other nofun
  | ignored => exact .other nofun

/-- **What a call does to the board.** There is nothing else. -/
theorem Sound.deed_call (h : d.Sound none) (c : Call) : Deed d c (d.offer? c) (d.call c).board := by
  rw [board_call]
  exact (taking_take h c).deed

end Fastboot.Device
