import Fastboot.Text.Parts

/-!
# Command tables

Commands are matched against tables of literals, and the first entry that matches decides.

* `leading?` matches an entry whose literal the input starts with.
* `word?` matches an entry whose literal is a whole word of the input: the input is the literal, or
  goes on with a space. So `lock` never takes `lock_critical` for itself.
* `argument?` is what follows the first colon, and `required` insists that there is something.
-/

namespace Fastboot.Command

open Text

variable {α : Type}

/-- The value of the first entry whose literal `input` starts with. -/
def leading? (table : List (String × α)) (input : String) : Option α :=
  (table.find? fun e => (after? e.1 input).isSome).map (·.2)

/-- Whether `input` is the word `literal`, alone or with a space behind it. -/
def isWord (literal input : String) : Bool :=
  match after? literal input with
  | none => false
  | some rest => match rest.toList with
    | [] => true
    | c :: _ => c == ' '

/-- The value of the first entry whose literal is a whole word at the start of `input`. -/
def word? (table : List (String × α)) (input : String) : Option α :=
  (table.find? fun e => isWord e.1 input).map (·.2)

/-- A name and the argument after the first colon, if there is a colon. -/
def splitArgument (input : String) : String × Option String :=
  cut ':' input

/-- The argument after the first colon, unless it is empty. -/
def argument? (input : String) : Option String :=
  (splitArgument input).2.filter (· != "")

end Fastboot.Command
