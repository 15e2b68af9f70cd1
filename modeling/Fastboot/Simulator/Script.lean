import Fastboot.Host
import Fastboot.Simulator.Files
import Fastboot.Text.Blank

/-!
# Scripts

A script has one command per line. Blanks around a line do not matter, and a line that is empty or
starts with `#` is passed over, though it counts. `@download` and `@upload` run a data phase with a
file; any other line is sent as it is.

`runScript` runs the lines one after the other and stops behind the first that fails, or that makes the
device leave the session.
-/

namespace Fastboot.Simulator

/-- What a line of a script asks for. -/
inductive Action where
  | download (path : String)
  | upload (path : String)
  | command (text : String)
  deriving DecidableEq, Repr

def Action.ofLine (line : String) : Action :=
  match Text.after? "@download" line with
  | some path => .download (Text.trim path)
  | none =>
    match Text.after? "@upload" line with
    | some path => .upload (Text.trim path)
    | none => .command line

/-- Why a line failed. -/
inductive LineError where
  | reading (path : String) (error : FileError)
  | writing (path : String) (error : FileError)
  | host (error : HostError)
  deriving DecidableEq, Repr

/-- What went wrong, from the outside in. -/
def LineError.messages : LineError → List String
  | reading path error => ["reading " ++ path, error.message]
  | writing path error => ["writing " ++ path, error.message]
  | host error => error.messages

variable {m : Type → Type} [Monad m]

/-- Run a line: what it printed after the line itself, and the host afterwards. -/
def runAction (files : Files m) (h : Host) : Action → m (Except LineError String × Host)
  | .download path => do
    match ← files.read path with
    | .error e => return (.error (.reading path e), h)
    | .ok data =>
      match h.download data with
      | (.error e, h) => return (.error (.host e), h)
      | (.ok response, h) => return (.ok response.text, h)
  | .upload path =>
    match h.upload with
    | (.error e, h) => return (.error (.host e), h)
    | (.ok data, h) => do
      match ← files.write path data with
      | .error e => return (.error (.writing path e), h)
      | .ok () => return (.ok s!"OKAY ({data.size} bytes)", h)
  | .command text =>
    match h.command text with
    | (.error e, h) => return (.error (.host e), h)
    | (.ok response, h) => return (.ok response.text, h)

/-- Whether a line, without the blanks around it, is passed over. -/
def isSkipped (line : String) : Bool :=
  match line.toList with
  | [] => true
  | c :: _ => c == '#'

/-- How a script ended. -/
structure ScriptRun where
  /-- What the lines printed, the first line first. -/
  records : List String := []
  /-- The line that failed, by its number. -/
  failure : Option (Nat × LineError) := none
  host : Host

/-- Run the lines from number `number` on. -/
def runScript (files : Files m) (h : Host) (number : Nat) : List String → m ScriptRun
  | [] => return { host := h }
  | line :: lines => do
    let line := Text.trim line
    if isSkipped line then runScript files h (number + 1) lines
    else
      match ← runAction files h (.ofLine line) with
      | (.error e, h) => return { failure := some (number, e), host := h }
      | (.ok answer, h) =>
        let record := line ++ " -> " ++ answer
        if h.device.isHalted then return { records := [record], host := h }
        else
          let rest ← runScript files h (number + 1) lines
          return { rest with records := record :: rest.records }

end Fastboot.Simulator
