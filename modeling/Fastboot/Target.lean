import Fastboot.Board
import Fastboot.Event
import Fastboot.Fault
import Fastboot.Response
import Fastboot.Settings

/-!
# The target of commands

A `Target` is what a command may touch: the board, the staging buffer and the transfer state, with
the settings to read and a log of events to write to.

A command that can fail halfway would leave a target that nobody asked for. So commands are functions
`Target → Except Fault (Reply × Target)`, and `Target.attempt` runs one: a command that fails leaves
the target as it was.
-/

namespace Fastboot

/-- The answer to a command, and what the completion of its frame leads to. -/
structure Reply where
  response : Response
  next : Continuation := .done
  deriving DecidableEq, Repr

namespace Reply

def okay : Reply :=
  ⟨.okay "", .done⟩

/-- Acknowledge an action that runs when the acknowledgement has gone out. -/
def exit (action : Exit) : Reply :=
  ⟨.okay "", .exit action⟩

def ofFault (f : Fault) : Reply :=
  ⟨.fail f.message, .done⟩

end Reply

/-- What a command may touch. -/
structure Target where
  settings : Settings := {}
  board : Board := {}
  staging : Buffer
  transfer : Transfer := {}
  /-- All events so far, the oldest first. -/
  events : Array Event := #[]

namespace Target

/-- A target at the start of a session. -/
def start (settings : Settings) (board : Board) : Target :=
  { settings, board, staging := .empty settings.stagingCapacity }

def emit (t : Target) (e : Event) : Target :=
  { t with events := t.events.push e }

/-- Report a change of mode since `old`, if there is one. -/
def reportMode (t : Target) (old : Mode) : Target :=
  if old = t.transfer.mode then t else t.emit (.mode old t.transfer.mode)

/-- Change the transfer state, and report the change of mode that comes with it. -/
def transition (t : Target) (change : Transfer → Transfer) : Target :=
  { t with transfer := change t.transfer }.reportMode t.transfer.mode

/-- Report that a counter has moved, with the progress mark that is due. -/
def progress (t : Target) (direction : Direction) (old new total : UInt32) : Target :=
  let t := t.emit (.progress direction new.toNat total.toNat)
  match progressMark? old.toNat new.toNat with
  | none => t
  | some lineBreak => t.emit (.mark lineBreak)

/-- Copy bytes into the staging buffer. A range out of bounds leaves it as it is. -/
def stage (t : Target) (offset : Nat) (bytes : ByteArray) : Except RangeError Unit × Target :=
  if h : offset + bytes.size ≤ t.staging.capacity then
    (.ok (), { t with staging := t.staging.overwrite offset bytes h })
  else (.error ⟨offset, bytes.size, t.staging.capacity⟩, t)

/-- The data of the last download. -/
def downloaded (t : Target) : Except Fault ByteArray :=
  (t.staging.take t.transfer.downloadBytes.toNat).mapError .staging

/-- Run a command that changes nothing when it fails. -/
def attempt (t : Target) (command : Target → Except Fault (Reply × Target)) :
    Except Fault Reply × Target :=
  match command t with
  | .ok (reply, t') => (.ok reply, t')
  | .error fault => (.error fault, t)

theorem stage_eq_ok_iff {t t' : Target} {offset : Nat} {bytes : ByteArray} :
    t.stage offset bytes = (.ok (), t') ↔
      ∃ staging, t.staging.writeAt offset bytes = .ok staging ∧ t' = { t with staging } := by
  unfold stage Buffer.writeAt
  split <;> simp [eq_comm]

theorem stage_eq_error_iff {t t' : Target} {offset : Nat} {bytes : ByteArray} {e : RangeError} :
    t.stage offset bytes = (.error e, t') ↔
      t.staging.writeAt offset bytes = .error e ∧ t' = t := by
  unfold stage Buffer.writeAt
  split <;> simp [eq_comm]

@[simp]
theorem settings_emit (t : Target) (e : Event) : (t.emit e).settings = t.settings := rfl

@[simp]
theorem board_emit (t : Target) (e : Event) : (t.emit e).board = t.board := rfl

@[simp]
theorem staging_emit (t : Target) (e : Event) : (t.emit e).staging = t.staging := rfl

@[simp]
theorem transfer_emit (t : Target) (e : Event) : (t.emit e).transfer = t.transfer := rfl

@[simp]
theorem toList_events_emit (t : Target) (e : Event) :
    (t.emit e).events.toList = t.events.toList ++ [e] := by
  simp [emit]

@[simp]
theorem settings_reportMode (t : Target) (m : Mode) : (t.reportMode m).settings = t.settings := by
  unfold reportMode; split <;> rfl

@[simp]
theorem board_reportMode (t : Target) (m : Mode) : (t.reportMode m).board = t.board := by
  unfold reportMode; split <;> rfl

@[simp]
theorem staging_reportMode (t : Target) (m : Mode) : (t.reportMode m).staging = t.staging := by
  unfold reportMode; split <;> rfl

@[simp]
theorem transfer_reportMode (t : Target) (m : Mode) : (t.reportMode m).transfer = t.transfer := by
  unfold reportMode; split <;> rfl

@[simp]
theorem settings_transition (t : Target) (f : Transfer → Transfer) :
    (t.transition f).settings = t.settings := by
  simp [transition]

@[simp]
theorem board_transition (t : Target) (f : Transfer → Transfer) :
    (t.transition f).board = t.board := by
  simp [transition]

@[simp]
theorem staging_transition (t : Target) (f : Transfer → Transfer) :
    (t.transition f).staging = t.staging := by
  simp [transition]

@[simp]
theorem transfer_transition (t : Target) (f : Transfer → Transfer) :
    (t.transition f).transfer = f t.transfer := by
  simp [transition]

end Target

end Fastboot
