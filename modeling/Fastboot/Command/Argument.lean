import Fastboot.Command.Lookup
import Fastboot.Target
import Fastboot.Text.Blank

/-!
# What a command needs

An argument of the command text, or a part of the board: each is there, or the command fails with the
fault for its absence.
-/

namespace Fastboot.Command

/-- What is there, or the fault of its absence. -/
def require {α : Type} (x : Option α) (absent : Fault) : Except Fault α :=
  match x with
  | some a => .ok a
  | none => .error absent

/-- The result of a part of the board, its errors as faults. -/
def byBoard {α : Type} (x : Except BoardError α) : Except Fault α :=
  x.mapError Fault.ofBoardError

/-- The argument of a command, which must not be empty. -/
def argument (command missing : String) : Except Fault String :=
  require (argument? command) (.malformed missing)

/-- The sub-command that a table has for what follows `verb` in a command. -/
def subcommand {α : Type} (table : List (String × α)) (verb command unknown : String) :
    Except Fault α :=
  let rest := (Text.after? verb command).getD command
  require (word? table (Text.trim rest)) (.malformed unknown)

/-! ### Opening a command step by step -/

variable {α β : Type} {f : Fault} {a : α}

theorem bind_eq_ok_iff {x : Except Fault α} {next : α → Except Fault β} {b : β} :
    x >>= next = .ok b ↔ ∃ a, x = .ok a ∧ next a = .ok b := by
  cases x <;> simp [bind, Except.bind]

theorem mapError_eq_ok_iff {ε : Type} {x : Except ε α} {toFault : ε → Fault} :
    x.mapError toFault = .ok a ↔ x = .ok a := by
  cases x with
  | error e => exact ⟨nofun, nofun⟩
  | ok b => exact ⟨fun h => congrArg _ (Except.ok.inj h), fun h => congrArg _ (Except.ok.inj h)⟩

theorem require_eq_ok_iff {x : Option α} : require x f = .ok a ↔ x = some a := by
  cases x <;> simp [require]

theorem byBoard_eq_ok_iff {x : Except BoardError α} : byBoard x = .ok a ↔ x = .ok a :=
  mapError_eq_ok_iff

end Fastboot.Command
