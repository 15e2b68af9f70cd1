import Fastboot.Document.Format
import Fastboot.Settings

/-!
# Settings as documents

Settings are saved as a document (`Settings.save?`) and loaded from the bytes of one (`Settings.loadFrom`), in
any `Format`. A key that the document leaves out keeps its default, and a key that is not known is passed
over, whatever is said of it; a known key with a value of another type is an error, and so are settings that
are not valid.

`Settings.print` and `Settings.load` do so in the format at hand, `Document.format`.
-/

namespace Fastboot

/-- Why settings could not be loaded. -/
inductive LoadError where
  /-- The bytes are no text. -/
  | encoding
  /-- The text is no document, or gives a known key a value of another type. -/
  | document
  | settings (error : SettingsError)
  deriving DecidableEq, Repr

def LoadError.message : LoadError → String
  | encoding => "stream did not contain valid UTF-8"
  | document => "invalid TOML"
  | settings error => error.message

namespace Settings

/-! ### Writing -/

/-- What is written of the settings: the sizes, and the facts in a table. -/
def sheet (s : Settings) : Sheet where
  entries :=
    [("staging_capacity", .integer s.stagingCapacity),
     ("ep_buffer_size", .integer s.bufferSize)]
  tables :=
    [("board",
      [("product", .text s.facts.product),
       ("variant", .text s.facts.variant),
       ("bootloader_version", .text s.facts.bootloaderVersion),
       ("secure", .text s.facts.secure),
       ("unlocked", .text s.facts.unlocked),
       ("off_mode_charge", .text s.facts.offModeCharge),
       ("battery_voltage", .text s.facts.batteryVoltage),
       ("battery_soc_ok", .text s.facts.batterySocOk)])]

/-- The text of the settings, unless one of their numbers is too large for it. -/
def save? (format : Format) (s : Settings) : Option String :=
  format.write? s.sheet

def print (s : Settings) : String :=
  s.sheet.print

/-! ### Reading -/

/-- The number at a path, or the default if nothing is there. -/
def numberAt? (d : Document) (path : Path) (default : Nat) : Option Nat :=
  match d.item? path with
  | some (.value (.integer n)) => if 0 ≤ n then some n.toNat else none
  | some _ => none
  | none => some default

/-- The text at a path, or the default if nothing is there. -/
def textAt? (d : Document) (path : Path) (default : String) : Option String :=
  match d.item? path with
  | some (.value (.text s)) => some s
  | some _ => none
  | none => some default

/-- The facts in the table `board`, which may be missing. -/
def factsOf? (d : Document) : Option BoardFacts := do
  if let some (.value _) := d.item? ["board"] then none
  let default : BoardFacts := {}
  let product ← textAt? d ["board", "product"] default.product
  let variant ← textAt? d ["board", "variant"] default.variant
  let bootloaderVersion ← textAt? d ["board", "bootloader_version"] default.bootloaderVersion
  let secure ← textAt? d ["board", "secure"] default.secure
  let unlocked ← textAt? d ["board", "unlocked"] default.unlocked
  let offModeCharge ← textAt? d ["board", "off_mode_charge"] default.offModeCharge
  let batteryVoltage ← textAt? d ["board", "battery_voltage"] default.batteryVoltage
  let batterySocOk ← textAt? d ["board", "battery_soc_ok"] default.batterySocOk
  return { product, variant, bootloaderVersion, secure, unlocked, offModeCharge, batteryVoltage,
           batterySocOk }

/-- The settings that a document gives. -/
def ofDocument? (d : Document) : Option Settings := do
  let default : Settings := {}
  let stagingCapacity ← numberAt? d ["staging_capacity"] default.stagingCapacity
  let bufferSize ← numberAt? d ["ep_buffer_size"] default.bufferSize
  let facts ← factsOf? d
  return { stagingCapacity, bufferSize, facts }

/-- The settings that a text gives, if they are valid. -/
def parse (format : Format) (text : String) : Except LoadError Settings :=
  match (format.read? text).bind ofDocument? with
  | none => .error .document
  | some s =>
    match s.check with
    | .ok () => .ok s
    | .error e => .error (.settings e)

/-- The settings in the bytes of a file. -/
def loadFrom (format : Format) (bytes : ByteArray) : Except LoadError Settings :=
  match String.fromUTF8? bytes with
  | none => .error .encoding
  | some text => parse format text

def load (bytes : ByteArray) : Except LoadError Settings :=
  loadFrom Document.format bytes

end Settings

end Fastboot
