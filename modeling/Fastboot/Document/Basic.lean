/-!
# Documents

A document gives values to keys, and groups them into tables. A table stands in a document by itself or by
what it holds, however the text of the document spells it: under a header, between braces behind its key, or
by keys with dots in them. `Document.item?` finds what stands at a path.

How documents are read from texts, and written, is left to a `Format`; what is built on one asks no more of it
than it needs. `Document.format` is one for documents that are written line by line. A line is an entry
`key = value`, the header `[a.b]` of the table that the entries below it belong to, or nothing. The text of an
entry may go on over several lines of the file, which count as one.

`Document.ofLines?` puts such lines together. A document says nothing twice: no key gets two values, no
table two headers, and nothing is a value and a table at once.
-/

namespace Fastboot

/-- Where a value or a table stands, from the outermost table inwards. -/
abbrev Path := List String

/-- A value that a document can give. -/
inductive Value where
  | integer (n : Int)
  | text (s : String)
  | boolean (b : Bool)
  /-- A value of another kind: a number with a fraction, a date or a time, or an array, of tables too. -/
  | other
  deriving DecidableEq, Repr

/-- What stands at a path. -/
inductive Item where
  | value (v : Value)
  | table
  deriving DecidableEq, Repr

/-- One line of a document. -/
inductive Line where
  | blank
  | table (path : Path)
  | entry (key : String) (value : Value)
  deriving DecidableEq, Repr

/-- The tables that stand by themselves and the values that are given. -/
structure Document where
  tables : List Path := []
  entries : List (Path × Value) := []
  deriving DecidableEq, Repr

/-- What is to be written: values, and tables of values. -/
structure Sheet where
  entries : List (String × Value)
  tables : List (String × List (String × Value))
  deriving DecidableEq, Repr

/-- How documents are read from texts and sheets are written as texts. -/
structure Format where
  /-- The document that a text spells, if it spells one. -/
  read? : String → Option Document
  /-- A text for a sheet, if it can be written. -/
  write? : Sheet → Option String

namespace Document

def value? (d : Document) (path : Path) : Option Value :=
  d.entries.lookup path

/-- What stands at a path: a value, or a table, which is where anything stands at or behind the path. -/
def item? (d : Document) (path : Path) : Option Item :=
  match d.value? path with
  | some v => some (.value v)
  | none =>
    if (d.tables ++ d.entries.map Prod.fst).any (path.isPrefixOf ·) then some .table else none

/-! ### Lines -/

/-- Whether there is a table at a path: it has a header, or a table within it has one. -/
def hasTable (d : Document) (path : Path) : Bool :=
  d.tables.any fun t => path.isPrefixOf t

/-- Whether a path leads through a value. -/
def crossesValue (d : Document) (path : Path) : Bool :=
  d.entries.any fun e => e.1.isPrefixOf path

/-- Add a line to a document whose last header is `current`. -/
def add? (d : Document) (current : Path) : Line → Option (Document × Path)
  | .blank => some (d, current)
  | .table path =>
    if path ∈ d.tables ∨ d.crossesValue path then none
    else some ({ d with tables := d.tables ++ [path] }, path)
  | .entry key value =>
    let path := current ++ [key]
    if (d.value? path).isSome ∨ d.hasTable path then none
    else some ({ d with entries := d.entries ++ [(path, value)] }, current)

/-- Add lines one after the other. -/
def addLines? (d : Document) (current : Path) : List Line → Option Document
  | [] => some d
  | line :: lines =>
    match d.add? current line with
    | none => none
    | some (d, current) => d.addLines? current lines

/-- The document that lines make up, unless they contradict each other. -/
def ofLines? (lines : List Line) : Option Document :=
  addLines? {} [] lines

end Document

end Fastboot
