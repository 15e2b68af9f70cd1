import Fastboot.Settings.Store
import Fastboot.Simulator.Arguments
import Fastboot.Simulator.Board
import Fastboot.Simulator.Script
import Fastboot.Text.Parts

/-!
# A session of the simulator

`runArguments` does what the arguments say: it loads the settings, writes them to a file if that is
asked for, or else runs the commands and the script against the simulated board. The `Format` of the
settings and the access to files are left to the caller. An `Outcome` has all that was printed. Progress
goes to the standard error output, and so does the reason of a failure.
-/

namespace Fastboot.Simulator

/-- What a run ends with. -/
structure Outcome where
  code : Nat := 0
  output : String := ""
  errors : String := ""
  deriving DecidableEq, Repr

/-! ### Reports -/

/-- Put each line of a text but the first behind a margin. -/
def indented (margin text : String) : String :=
  ("\n" ++ margin).intercalate ((text.toList.splitOn '\n').map String.ofList)

/-- The causes of a failure. A single one has no number. -/
def causeLines (causes : List String) : List String :=
  match causes with
  | [cause] => ["    " ++ indented "    " cause]
  | causes => causes.zipIdx.map fun (cause, i) =>
    let number := toString i
    String.ofList (List.replicate (5 - number.length) ' ') ++ number ++ ": "
      ++ indented "       " cause

/-- The report of a failure, given by what went wrong from the outside in. -/
def report (messages : List String) : String :=
  match messages with
  | [] => "Error: \n"
  | [message] => "Error: " ++ message ++ "\n"
  | message :: causes =>
    "Error: " ++ message ++ "\n\nCaused by:\n" ++ "\n".intercalate (causeLines causes) ++ "\n"

def failed (messages : List String) : Outcome :=
  { code := 1, errors := report messages }

/-- What an event shows on the console: a dot per progress mark, and line ends. -/
def eventText : Event → String
  | .mark lineBreak => if lineBreak then ".\n" else "."
  | .finished _ _ => "\n"
  | _ => ""

def progressText (events : Array Event) : String :=
  events.foldl (fun s e => s ++ eventText e) ""

/-! ### Running -/

variable {m : Type → Type} [Monad m]

/-- The settings in a file, or the default ones. -/
def loadSettings (format : Format) (files : Files m) :
    Option String → m (Except (List String) Settings)
  | none => return .ok {}
  | some path => do
    let context := "loading config " ++ path
    match ← files.read path with
    | .error e => return .error [context, e.message]
    | .ok bytes =>
      match Settings.loadFrom format bytes with
      | .error e => return .error [context, e.message]
      | .ok settings => return .ok settings

def notText : String :=
  LoadError.message .encoding

/-- Why settings could not be written: a number is too large for their format. -/
def notWritten : String :=
  "out-of-range value for u64 type"

/-- The lines to run: the commands of the command line, then the script. With neither, the standard
input is the script. -/
def scriptLines (files : Files m) (a : Arguments) : m (Except (List String) (List String)) :=
  let withText (bytes : ByteArray) (context : List String) : Except (List String) (List String) :=
    match String.fromUTF8? bytes with
    | none => .error (context ++ [notText])
    | some text => .ok (a.commands ++ (Text.lines text.toList).map String.ofList)
  match a.script with
  | some path => do
    let context := ["reading script " ++ path]
    match ← files.read path with
    | .error e => return .error (context ++ [e.message])
    | .ok bytes => return withText bytes context
  | none =>
    if a.commands.isEmpty then do return withText (← files.input) []
    else return .ok a.commands

/-- The outcome of a script. -/
def ScriptRun.outcome (r : ScriptRun) : Outcome :=
  let output := String.join (r.records.map (· ++ "\n"))
  let progress := progressText r.host.device.events
  match r.failure with
  | none => { output, errors := progress }
  | some (number, e) =>
    { code := 1, output, errors := progress ++ report (s!"script line {number}" :: e.messages) }

/-- Run the commands and the script against the simulated board. -/
def runSession (files : Files m) (a : Arguments) (settings : Settings) : m Outcome := do
  match Host.connect settings simulatedBoard with
  | .error e => return failed [e.message]
  | .ok h =>
    let h := match a.chunk with
      | some chunk => h.withChunk chunk
      | none => h
    match ← scriptLines files a with
    | .error messages => return failed messages
    | .ok lines => return (← runScript files h 1 lines).outcome

/-- Do what the arguments say. -/
def runArguments (format : Format) (files : Files m) (a : Arguments) : m Outcome := do
  match ← loadSettings format files a.config with
  | .error messages => return failed messages
  | .ok settings =>
    match a.writeConfig with
    | none => runSession files a settings
    | some path =>
      match settings.save? format with
      | none => return failed [notWritten]
      | some text =>
        match ← files.write path text.toUTF8 with
        | .error e => return failed [e.message]
        | .ok () => return {}

end Fastboot.Simulator
