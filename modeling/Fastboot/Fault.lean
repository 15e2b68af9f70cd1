import Fastboot.Buffer
import Fastboot.Frame

/-!
# Faults

Why a command or a data phase failed. The message of a fault is the reason that goes out in a `FAIL`
answer, word for word. The error of a part of the board becomes a fault of its own (`Fault.ofBoardError`).
-/

namespace Fastboot

/-- Why a part of the board did not do what it was asked. -/
inductive BoardError where
  | failed (reason : String)
  /-- The part does not know the operation. -/
  | unsupported
  deriving DecidableEq, Repr

def BoardError.message : BoardError → String
  | failed reason => reason
  | unsupported => "operation not supported"

/-- What went wrong, by its cause. -/
inductive Fault where
  /-- The command is malformed, incomplete or too long. -/
  | malformed (reason : String)
  | unknownCommand
  | unknownVariable
  | invalidSize
  | tooLarge
  /-- A transfer of a data phase ended with a status other than zero. -/
  | transferFailed (code : Int)
  /-- The part of the board that the command needs is not there. -/
  | unavailable (reason : String)
  /-- A part of the board reported an error. -/
  | boardFailure (reason : String)
  /-- The device does not allow it. -/
  | refused (reason : String)
  | unsupported
  | responseTooLong
  | staging (range : RangeError)
  deriving DecidableEq, Repr

namespace Fault

def message : Fault → String
  | malformed reason => reason
  | unknownCommand => "unknown command"
  | unknownVariable => "Variable not implemented"
  | invalidSize => "data invalid size"
  | tooLarge => "data too large"
  | transferFailed code => s!"data transfer failed ({code})"
  | unavailable reason => reason
  | boardFailure reason => reason
  | refused reason => reason
  | unsupported => "not implemented"
  | responseTooLong => "response too long"
  | staging range => "staging buffer: " ++ range.message

def ofBoardError : BoardError → Fault
  | .unsupported => unsupported
  | .failed reason => boardFailure reason

def ofOverflow (_ : Overflow) : Fault :=
  responseTooLong

end Fault

end Fastboot
