import Fastboot.Text.Hex

/-!
# Texts between quotes

A text stands between double quotes or between single ones, with one quote at either end or three. A
backslash between double quotes starts an escape; between single quotes every character stands for
itself. Three quotes make a block, in which lines may end. A line feed right behind its opening quotes
is not part of the text, and a backslash at the end of a line joins the line with what comes next.

* `Quotes.print` writes a text. It takes the first quotes that need no escapes for it
  (`Quotes.ofText`), and escapes what it has to if there are none.
* `Quotes.read?` reads the text behind opening quotes, as far as its line goes, and
  `OpenText.read?` goes on with a block in the next line.
-/

namespace Fastboot.Document

open Text

/-! ### Characters -/

/-- The white space within a line. -/
def isSpace (c : Char) : Bool :=
  c == ' ' || c == '\t'

def skipSpace (cs : List Char) : List Char :=
  cs.dropWhile isSpace

/-- What may stand in a comment or a text as it is: everything but control characters of ASCII, and
the tab of these. -/
def isPrintable (c : Char) : Bool :=
  c == '\t' || (0x20 ≤ c.toNat && c.toNat != 0x7F)

/-- Whether `part` stands somewhere in a text. -/
def occurs (part : List Char) : List Char → Bool
  | [] => part.isEmpty
  | c :: cs => part.isPrefixOf (c :: cs) || occurs part cs

/-- The quotes around a text. -/
structure Quotes where
  /-- Double quotes, and escapes between them. -/
  escapes : Bool
  /-- Three quotes at either end. -/
  block : Bool
  deriving DecidableEq, Repr

namespace Quotes

/-- One double quote at either end. -/
def basic : Quotes := ⟨true, false⟩

/-- One single quote at either end. -/
def literal : Quotes := ⟨false, false⟩

def mark (q : Quotes) : Char :=
  if q.escapes then '"' else '\''

def width (q : Quotes) : Nat :=
  if q.block then 3 else 1

def delimiter (q : Quotes) : List Char :=
  List.replicate q.width q.mark

/-! ### Writing -/

/-- Whether a character can stand between the quotes as it is. -/
def admits (q : Quotes) (c : Char) : Bool :=
  (isPrintable c && !(q.escapes && c == '\\')) || (q.block && c == '\n')

/-- Whether a text needs no escapes between the quotes. -/
def fits (q : Quotes) (cs : List Char) : Bool :=
  cs.all q.admits && !occurs q.delimiter cs

/-- The quotes to write a text with: the first that it fits, or double ones, in a block if a line
ends in the text. -/
def ofText (cs : List Char) : Quotes :=
  ([basic, literal, ⟨true, true⟩, ⟨false, true⟩].find? (·.fits cs)).getD ⟨true, cs.contains '\n'⟩

/-- The spelling of a character that is no quote, between double quotes. Control characters without a
letter of their own have their code point, in capital digits. -/
def escaped (c : Char) : List Char :=
  match c with
  | '\\' => ['\\', '\\']
  | '\x08' => ['\\', 'b']
  | '\t' => ['\\', 't']
  | '\n' => ['\\', 'n']
  | '\x0c' => ['\\', 'f']
  | '\r' => ['\\', 'r']
  | c =>
    if isPrintable c then [c] else ['\\', 'u'] ++ (hex 4 c.toNat).toList.map Char.toUpper

/-- The spelling of a text between double quotes, behind what is `written`, the last character first.
The last `run` characters written are quotes; a quote that would make them as many as close the text is
escaped. -/
def escapedAfter (q : Quotes) (written : List Char) (run : Nat) : List Char → List Char
  | [] => written.reverse
  | '"' :: cs =>
    if run + 1 < q.width then q.escapedAfter ('"' :: written) (run + 1) cs
    else q.escapedAfter ('"' :: '\\' :: written) 0 cs
  | c :: cs =>
    if q.block ∧ c = '\n' then q.escapedAfter ('\n' :: written) 0 cs
    else q.escapedAfter ((escaped c).reverse ++ written) 0 cs

/-- The spelling of a text between the quotes. A block of several lines starts on a line of its own. -/
def body (q : Quotes) (cs : List Char) : List Char :=
  let spelling := if q.escapes then q.escapedAfter [] 0 cs else cs
  if q.block ∧ cs.contains '\n' then '\n' :: spelling else spelling

/-- A text in quotes. -/
def print (cs : List Char) : List Char :=
  let q := ofText cs
  q.delimiter ++ q.body cs ++ q.delimiter

end Quotes

/-! ### Reading -/

/-- The character with a code point in hexadecimal. -/
def codePoint? (ds : List Char) : Option Char :=
  if ds.all isHexDigit ∧ (hexValue ds).isValidChar then some (Char.ofNat (hexValue ds)) else none

/-- The character for the letter behind a backslash. -/
def escape? : Char → Option Char
  | 'b' => some '\x08'
  | 't' => some '\t'
  | 'n' => some '\n'
  | 'f' => some '\x0c'
  | 'r' => some '\r'
  | '"' => some '"'
  | '\\' => some '\\'
  | _ => none

/-- A text of which the closing quotes are still to come. -/
structure OpenText where
  quotes : Quotes
  /-- The characters that were read, the last one first. -/
  read : List Char := []
  /-- Whether the line that was read is joined with what comes next. -/
  joins : Bool := false
  deriving DecidableEq, Repr

/-- What a line holds of a text. -/
inductive TextPart where
  /-- All of the text is there, and the line goes on with `rest`. -/
  | closed (text rest : List Char)
  | unclosed (text : OpenText)
  deriving DecidableEq, Repr

namespace Quotes

/-- Join a line with the next one, if a block is read and nothing but white space is left. -/
def join? (q : Quotes) (read cs : List Char) : Option TextPart :=
  if q.block ∧ cs.all isSpace then some (.unclosed { quotes := q, read, joins := true }) else none

/-- A text behind the characters of it that were read already, the last one first. A run of quotes
that is long enough closes the text; of one that is longer, as many as would not have closed it are
part of the text. -/
def readAfter? (q : Quotes) (read : List Char) : List Char → Option TextPart
  | [] => if q.block then some (.unclosed { quotes := q, read := '\n' :: read }) else none
  | c :: cs =>
    if c = q.mark then
      let run := (cs.takeWhile (· == q.mark)).length + 1
      if run < q.width then q.readAfter? (c :: read) cs
      else
        let own := min (run - q.width) (q.width - 1)
        some (.closed (List.replicate own c ++ read).reverse ((c :: cs).drop (own + q.width)))
    else if q.escapes ∧ c = '\\' then
      match cs with
      | 'u' :: a :: b :: c :: d :: rest =>
        match codePoint? [a, b, c, d] with
        | some x => q.readAfter? (x :: read) rest
        | none => none
      | 'U' :: a :: b :: c :: d :: e :: f :: g :: h :: rest =>
        match codePoint? [a, b, c, d, e, f, g, h] with
        | some x => q.readAfter? (x :: read) rest
        | none => none
      | c :: rest =>
        match escape? c with
        | some x => q.readAfter? (x :: read) rest
        | none => q.join? read (c :: rest)
      | [] => q.join? read []
    else if isPrintable c then q.readAfter? (c :: read) cs
    else none

/-- The text behind opening quotes. -/
def read? (q : Quotes) (cs : List Char) : Option TextPart :=
  if q.block ∧ cs.isEmpty then some (.unclosed { quotes := q }) else q.readAfter? [] cs

/-- The quotes at the start of a line, and what is behind them. -/
def open? : List Char → Option (Quotes × List Char)
  | '"' :: '"' :: '"' :: cs => some (⟨true, true⟩, cs)
  | '\'' :: '\'' :: '\'' :: cs => some (⟨false, true⟩, cs)
  | '"' :: cs => some (basic, cs)
  | '\'' :: cs => some (literal, cs)
  | _ => none

end Quotes

/-- Go on with a text in the next line. -/
def OpenText.read? (t : OpenText) (line : List Char) : Option TextPart :=
  if t.joins then
    match skipSpace line with
    | [] => some (.unclosed t)
    | cs => t.quotes.readAfter? t.read cs
  else t.quotes.readAfter? t.read line

/-- The text, if all of it is there, and what is behind it. -/
def TextPart.closed? : TextPart → Option (List Char × List Char)
  | .closed text rest => some (text, rest)
  | .unclosed _ => none

end Fastboot.Document
