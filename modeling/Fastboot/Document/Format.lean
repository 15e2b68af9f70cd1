import Fastboot.Document.Reader

/-!
# A format of documents

`Document.format` reads documents line by line (`Document.parse?`) and writes sheets in lines: the values
first, then each table behind an empty line. It knows the values that settings have. A text with a value of
another kind, or with a table that has no header, is none that it reads.

`Line.print` spells one line, and `Document.printLines` puts a line feed behind each. Texts stand in the
quotes that suit them, so that one in which lines end takes several lines of the file.
-/

namespace Fastboot

/-- The spelling of a value. There is none for the kinds that are not told apart. -/
def Value.print : Value → List Char
  | integer n => (toString n).toList
  | text s => Document.Quotes.print s.toList
  | boolean b => (toString b).toList
  | other => []

/-- The spelling of a line. Its keys are written as they are, so they must need no quotes. -/
def Line.print : Line → List Char
  | blank => []
  | table path => '[' :: ['.'].intercalate (path.map String.toList) ++ [']']
  | entry key value => key.toList ++ [' ', '=', ' '] ++ value.print

/-- The text of a document, line by line. -/
def Document.printLines (lines : List Line) : String :=
  String.ofList (lines.flatMap fun line => line.print ++ ['\n'])

/-! ### Sheets -/

/-- Whether a value can be written. -/
def Value.isWritable : Value → Bool
  | integer n => Document.inRange n
  | text _ | boolean _ => true
  | other => false

def Line.isWritable : Line → Bool
  | blank | table _ => true
  | entry _ value => value.isWritable

/-- A line with the empty one in front of it, if it is a header. -/
def Line.spaced : Line → List Line
  | table path => [blank, table path]
  | line => [line]

namespace Sheet

/-- The lines that say what a sheet says. -/
def lines (sheet : Sheet) : List Line :=
  entryLines sheet.entries ++
    sheet.tables.flatMap fun (name, entries) => .table [name] :: entryLines entries
where
  entryLines (entries : List (String × Value)) : List Line :=
    entries.map fun (key, value) => .entry key value

/-- The lines of a sheet, with an empty one before each table. -/
def spacedLines (sheet : Sheet) : List Line :=
  sheet.lines.flatMap Line.spaced

def print (sheet : Sheet) : String :=
  Document.printLines sheet.spacedLines

end Sheet

/-- Documents that are written line by line. -/
def Document.format : Format where
  read? := Document.parse?
  write? sheet := if sheet.lines.all Line.isWritable then some sheet.print else none

end Fastboot
