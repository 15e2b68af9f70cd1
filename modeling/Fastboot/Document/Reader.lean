import Fastboot.Document.Basic
import Fastboot.Document.Quotes
import Fastboot.Text.Parts

/-!
# Reading documents

`Document.parse?` reads a document from its text line by line, and `Document.ofLines?` puts together
what it has read. `Document.lineEnd?` reads a line; it may leave an entry whose text goes on, with which
`OpenEntry.lineEnd?` starts the next line. The parsers of keys take what they need from the start of a
list of characters and give the rest back.
-/

namespace Fastboot

open Text

namespace Document

/-- Whether nothing but white space and a comment is left. -/
def atEnd (cs : List Char) : Bool :=
  match skipSpace cs with
  | [] => true
  | '#' :: comment => comment.all isPrintable
  | _ => false

/-! ### Keys -/

/-- What a key without quotes consists of. -/
def isBare (c : Char) : Bool :=
  c.isAlphanum || c == '_' || c == '-'

/-- A key in quotes, which does not go on in the next line. -/
def quotedKey? (q : Quotes) (cs : List Char) : Option (String × List Char) :=
  ((q.read? cs).bind TextPart.closed?).map fun (text, rest) => (String.ofList text, rest)

def key? : List Char → Option (String × List Char)
  | '"' :: cs => quotedKey? .basic cs
  | '\'' :: cs => quotedKey? .literal cs
  | cs =>
    match cs.takeWhile isBare with
    | [] => none
    | key => some (String.ofList key, cs.dropWhile isBare)

/-- How many keys a header may have. -/
def maxKeys : Nat := 79

/-- Keys with dots between them, up to the bracket that closes the header; at most `limit` keys. -/
def path? : Nat → List Char → Option (Path × List Char)
  | 0, _ => none
  | limit + 1, cs =>
    match key? (skipSpace cs) with
    | none => none
    | some (key, rest) =>
      match skipSpace rest with
      | ']' :: rest => some ([key], rest)
      | '.' :: rest => (path? limit rest).map fun (path, rest) => (key :: path, rest)
      | _ => none

/-! ### Values -/

/-- The value of a digit in a base up to sixteen. -/
def digit? (base : Nat) (c : Char) : Option Nat :=
  (hexDigit? c).filter (· < base)

/-- The number of largest size that an integer can have. -/
def maxSize : Nat := 0x8000000000000000

/-- The value of digits behind others of value `n`, up to `maxSize`; an underscore may stand between
two digits. -/
def digitsAfter? (base n : Nat) : List Char → Option Nat
  | [] => some n
  | '_' :: c :: cs => (append? c).bind fun n => digitsAfter? base n cs
  | c :: cs => (append? c).bind fun n => digitsAfter? base n cs
where
  append? (c : Char) : Option Nat :=
    ((digit? base c).map (base * n + ·)).filter (· ≤ maxSize)

def digits? (base : Nat) : List Char → Option Nat
  | [] => none
  | c :: cs => (digit? base c).bind fun d => digitsAfter? base d cs

/-- Decimal digits; only zero itself starts with a zero. -/
def decimal? : List Char → Option Nat
  | ['0'] => some 0
  | '0' :: _ => none
  | cs => digits? 10 cs

def integer? : List Char → Option Int
  | '0' :: 'x' :: cs => (digits? 16 cs).map Int.ofNat
  | '0' :: 'o' :: cs => (digits? 8 cs).map Int.ofNat
  | '0' :: 'b' :: cs => (digits? 2 cs).map Int.ofNat
  | '-' :: cs => (decimal? cs).map fun n => -(n : Int)
  | '+' :: cs => (decimal? cs).map Int.ofNat
  | cs => (decimal? cs).map Int.ofNat

/-- Whether an integer fits in 64 bits with a sign. -/
def inRange (n : Int) : Bool :=
  -(maxSize : Int) ≤ n && n < (maxSize : Int)

/-- A value that is not a text, spelled by all of `cs`. -/
def scalar? (cs : List Char) : Option Value :=
  if cs = "true".toList then some (.boolean true)
  else if cs = "false".toList then some (.boolean false)
  else ((integer? cs).filter inRange).map .integer

/-! ### Lines -/

/-- An entry with a text of which the closing quotes are still to come. -/
structure OpenEntry where
  key : String
  text : OpenText
  deriving DecidableEq, Repr

/-- What the document has when a line of its text is read. -/
inductive LineEnd where
  | whole (line : Line)
  | unclosed (entry : OpenEntry)
  deriving DecidableEq, Repr

/-- The entry of a key with a text. -/
def withText? (key : String) : TextPart → Option LineEnd
  | .closed text rest =>
    if atEnd rest then some (.whole (.entry key (.text (String.ofList text)))) else none
  | .unclosed text => some (.unclosed ⟨key, text⟩)

/-- The entry of a key with the value that the rest of the line starts with. -/
def withValue? (key : String) (cs : List Char) : Option LineEnd :=
  match Quotes.open? cs with
  | some (q, cs) => (q.read? cs).bind (withText? key)
  | none =>
    let isPart (c : Char) : Bool := !isSpace c && c != '#'
    match scalar? (cs.takeWhile isPart) with
    | some value =>
      if atEnd (cs.dropWhile isPart) then some (.whole (.entry key value)) else none
    | none => none

/-- Read a line. -/
def lineEnd? (cs : List Char) : Option LineEnd :=
  match skipSpace cs with
  | [] => some (.whole .blank)
  | '#' :: comment => if comment.all isPrintable then some (.whole .blank) else none
  | '[' :: cs =>
    match path? maxKeys cs with
    | some (path, rest) => if atEnd rest then some (.whole (.table path)) else none
    | none => none
  | cs =>
    match key? cs with
    | none => none
    | some (key, rest) =>
      match skipSpace rest with
      | '=' :: rest => withValue? key (skipSpace rest)
      | _ => none

/-- Go on with an entry in the next line. -/
def OpenEntry.lineEnd? (e : OpenEntry) (cs : List Char) : Option LineEnd :=
  (e.text.read? cs).bind (withText? e.key)

/-! ### Documents -/

/-- How far a text has been read. -/
structure Progress where
  /-- The lines that are whole. -/
  lines : Array Line := #[]
  unclosed : Option OpenEntry := none

/-- Read the next line. -/
def Progress.read? (p : Progress) (cs : List Char) : Option Progress :=
  let lineEnd := match p.unclosed with
    | none => Document.lineEnd? cs
    | some entry => entry.lineEnd? cs
  match lineEnd with
  | none => none
  | some (.whole line) => some { lines := p.lines.push line }
  | some (.unclosed entry) => some { p with unclosed := some entry }

/-- A text without the byte order mark that may stand in front of it. -/
def dropMark : List Char → List Char
  | '\ufeff' :: cs => cs
  | cs => cs

/-- The document that a text spells. -/
def parse? (text : String) : Option Document :=
  match (lines (dropMark text.toList)).foldlM Progress.read? {} with
  | some { lines, unclosed := none } => ofLines? lines.toList
  | _ => none

end Document

end Fastboot
