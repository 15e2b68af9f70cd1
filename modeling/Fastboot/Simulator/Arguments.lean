import Fastboot.Text.Parts

/-!
# The command line

`Request.ofArguments` reads the arguments from left to right. An option takes its value from behind an
equals sign or from the next argument, and may be given once; what is no option is a command, and so is
everything behind `--`. The first argument that asks for the version or the help, or that makes no
sense, decides.
-/

namespace Fastboot.Simulator

open Text

/-- What the arguments say. -/
structure Arguments where
  config : Option String := none
  script : Option String := none
  chunk : Option Nat := none
  writeConfig : Option String := none
  verbose : Bool := false
  commands : List String := []
  deriving DecidableEq, Repr

/-- What the command line asks for. -/
inductive Request where
  | run (arguments : Arguments)
  | version
  | help
  /-- The arguments make no sense. -/
  | misuse
  deriving DecidableEq, Repr

/-- An option that takes a value. -/
inductive ValueOption where
  | config
  | script
  | chunk
  | writeConfig
  deriving DecidableEq, Repr

def ValueOption.table : List (String × ValueOption) :=
  [("config", .config), ("script", .script), ("chunk", .chunk), ("write-config", .writeConfig)]

/-- A number in decimal digits, less than `2 ^ 64`, with or without a plus sign. -/
def natural? (s : String) : Option Nat :=
  let ds := match s.toList with
    | '+' :: ds => ds
    | ds => ds
  if ds ≠ [] ∧ ds.all Char.isDigit then (some (Nat.ofDigitChars 10 ds 0)).filter (· < UInt64.size)
  else none

/-- Set an option that is not set yet. -/
def Arguments.set? (a : Arguments) (o : ValueOption) (value : String) : Option Arguments :=
  match o with
  | .config => if a.config.isSome ∨ value = "" then none else some { a with config := some value }
  | .script => if a.script.isSome ∨ value = "" then none else some { a with script := some value }
  | .writeConfig =>
    if a.writeConfig.isSome ∨ value = "" then none else some { a with writeConfig := some value }
  | .chunk =>
    if a.chunk.isSome then none
    else (natural? value).map fun n => { a with chunk := some n }

def Arguments.setVerbose? (a : Arguments) : Option Arguments :=
  if a.verbose then none else some { a with verbose := true }

/-- What an argument is, by its form. -/
inductive Argument where
  /-- Two dashes alone. -/
  | separator
  /-- Two dashes and a name, with or without a value. -/
  | long (name : String) (value : Option String)
  /-- A dash and letters. -/
  | short (letters : List Char)
  | plain (text : String)
  deriving DecidableEq, Repr

def Argument.ofText (s : String) : Argument :=
  match s.toList with
  | ['-', '-'] => .separator
  | '-' :: '-' :: cs =>
    let (name, value) := cut '=' (String.ofList cs)
    .long name value
  | '-' :: c :: cs => .short (c :: cs)
  | _ => .plain s

/-- What is known after an argument: the arguments so far, with the option that waits for its value,
or the request that the argument decides. -/
inductive Progress where
  | more (arguments : Arguments) (waiting : Option ValueOption)
  | decided (request : Request)

def Progress.ofArguments? (a : Option Arguments) : Progress :=
  match a with
  | some a => .more a none
  | none => .decided .misuse

/-- Read letters behind a dash. -/
def readLetters (a : Arguments) : List Char → Progress
  | [] => .more a none
  | 'v' :: cs =>
    match a.setVerbose? with
    | some a => readLetters a cs
    | none => .decided .misuse
  | 'h' :: _ => .decided .help
  | 'V' :: _ => .decided .version
  | _ => .decided .misuse

/-- Read an argument that is not the value of an option before it. -/
def readArgument (a : Arguments) (argument : Argument) : Progress :=
  match argument with
  | .separator => .more a none
  | .plain text => .more { a with commands := a.commands ++ [text] } none
  | .short letters => readLetters a letters
  | .long "verbose" none => .ofArguments? a.setVerbose?
  | .long "help" none => .decided .help
  | .long "version" none => .decided .version
  | .long name value =>
    match ValueOption.table.lookup name, value with
    | some o, some value => .ofArguments? (a.set? o value)
    | some o, none => .more a (some o)
    | none, _ => .decided .misuse

/-- Read the arguments from left to right. -/
def readArguments (a : Arguments) (waiting : Option ValueOption) : List String → Request
  | [] => if waiting.isSome then .misuse else .run a
  | s :: rest =>
    let progress := match waiting, Argument.ofText s with
      | some o, .plain text => Progress.ofArguments? (a.set? o text)
      | some _, _ => .decided .misuse
      | none, argument => readArgument a argument
    match progress with
    | .decided request => request
    | .more a waiting =>
      if Argument.ofText s = .separator then .run { a with commands := a.commands ++ rest }
      else readArguments a waiting rest

def Request.ofArguments (arguments : List String) : Request :=
  readArguments {} none arguments

end Fastboot.Simulator
