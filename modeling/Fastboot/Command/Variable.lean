import Fastboot.Command.Argument

/-!
# Variables

`getvar:` reports the value of a variable. A name is looked up in three steps, and `Variable.ofName`
takes them: the plain names match as a whole (`Variable.plain`), the names with a parameter match by
what stands before their first colon (`Variable.withParameter`), and every other name is one of the
environment.

`Variable.value` is the value of a variable, and reading the retry count of a slot also uses up one
retry. A value that does not fit a frame is refused, never cut short.
-/

namespace Fastboot.Command

/-- Something that a host can ask the value of. -/
inductive Variable where
  | version
  | bootloaderVersion
  | product
  | variant
  | secure
  | unlocked
  | offModeCharge
  | batteryVoltage
  | batterySocOk
  | maxDownloadSize
  | serialNumber
  | attestationDh
  | attestationUuid
  | bootState
  | slotCount
  | currentSlot
  | slotSuffixes
  | hasSlot (partition : Option String)
  /-- A property of a slot that no slot of this board has. -/
  | slotProperty (slot : Option String)
  | slotRetryCount (slot : Option String)
  | partitionType (partition : Option String)
  | partitionSize (partition : Option String)
  /-- A name that is not built in. -/
  | custom (name : String)
  deriving DecidableEq, Repr

namespace Variable

/-- The variables without a parameter. -/
def plain : List (String × Variable) :=
  [("version", version),
   ("bootloader-version", bootloaderVersion),
   ("product", product),
   ("variant", variant),
   ("secure", secure),
   ("unlocked", unlocked),
   ("off-mode-charge", offModeCharge),
   ("battery-voltage", batteryVoltage),
   ("battery-soc-ok", batterySocOk),
   ("max-download-size", maxDownloadSize),
   ("downloadsize", maxDownloadSize),
   ("serialno", serialNumber),
   ("at-attest-dh", attestationDh),
   ("at-attest-uuid", attestationUuid),
   ("at-vboot-state", bootState),
   ("slot-count", slotCount),
   ("current-slot", currentSlot),
   ("slot-suffixes", slotSuffixes)]

/-- The variables with a parameter, by what stands before the first colon. -/
def withParameter : List (String × (Option String → Variable)) :=
  [("has-slot", hasSlot),
   ("slot-unbootable", slotProperty),
   ("slot-successful", slotProperty),
   ("slot-retry-count", slotRetryCount),
   ("partition-type", partitionType),
   ("partition-size", partitionSize)]

/-- The variable that a name stands for. -/
def ofName (name : String) : Variable :=
  match plain.lookup name with
  | some v => v
  | none =>
    match withParameter.lookup (splitArgument name).1 with
    | some v => v (argument? name)
    | none => custom name

end Variable

/-- The version of the protocol. -/
def protocolVersion : String := "0.4"

/-- The partitions that there is one of per slot. -/
def slottedPartitions : List String :=
  ["boot", "system", "vendor", "vbmeta", "oem"]

/-- The name in the environment for a variable that is not built in. -/
def environmentName (name : String) : String :=
  "fastboot." ++ name

/-- The slots of a board that has some. -/
def slotsOf (b : Board) : Except Fault Slots :=
  require b.slots .unsupported

/-- The attestation service of a board that has one. -/
def attestationOf (b : Board) : Except Fault Attestation :=
  require b.attestation .unsupported

/-- The slot that a parameter names. -/
def knownSlot (b : Board) (name : Option String) : Except Fault Char := do
  let slots ← slotsOf b
  require (slots.named? (name.getD "")) (.refused "no")

/-- The partition that a parameter names. -/
def knownPartition (b : Board) (name : Option String) : Except Fault Partition := do
  let name ← require name (.malformed "missing partition name")
  let table ← require b.partitionTable? (.unavailable "block device not found")
  require (table.find? name) (.boardFailure "partition not found")

namespace Variable

/-- The value of a variable. -/
def value (t : Target) : Variable → Except Fault String
  | version => .ok protocolVersion
  | bootloaderVersion => .ok t.settings.facts.bootloaderVersion
  | product => .ok t.settings.facts.product
  | variant => .ok t.settings.facts.variant
  | secure => .ok t.settings.facts.secure
  | unlocked =>
    match t.board.lock with
    | none => .ok t.settings.facts.unlocked
    | some lock => do
      match ← byBoard lock.flashState with
      | .unlocked => return "yes"
      | .locked => return "no"
  | offModeCharge => .ok t.settings.facts.offModeCharge
  | batteryVoltage => .ok t.settings.facts.batteryVoltage
  | batterySocOk => .ok t.settings.facts.batterySocOk
  | maxDownloadSize => .ok ("0x" ++ Text.hex 8 t.staging.capacity)
  | serialNumber => require (t.board.env? "serial#") (.boardFailure "Value not set")
  | attestationDh => do
    let attestation ← attestationOf t.board
    attestation.getDh.mapError fun _ => .boardFailure "dh not set"
  | attestationUuid => do
    let attestation ← attestationOf t.board
    attestation.getUuid.mapError fun _ => .boardFailure "uuid not set"
  | bootState => .ok ""
  | slotCount => do
    let slots ← slotsOf t.board
    return toString slots.suffixes.length
  | currentSlot => do
    let slots ← slotsOf t.board
    let slot ← slots.current.mapError fun _ => Fault.boardFailure "geterror"
    return slot.toString
  | slotSuffixes => do
    let slots ← slotsOf t.board
    return String.ofList (slots.suffixes.flatMap fun c => [c, ','])
  | hasSlot name => do
    let _ ← slotsOf t.board
    let name ← require name (.malformed "missing partition name")
    if name ∈ slottedPartitions then return "yes" else .error (.refused "no")
  | slotProperty name => do
    let _ ← knownSlot t.board name
    return "no"
  | slotRetryCount name => do
    let slot ← knownSlot t.board name
    return toString (t.transfer.retryCount slot).toNat
  | partitionType name => do
    let p ← knownPartition t.board name
    return p.kind
  | partitionSize name => do
    let p ← knownPartition t.board name
    return "0x" ++ Text.hex 16 p.size.toNat
  | custom name => require (t.board.env? (environmentName name)) .unknownVariable

/-- What reading a variable changes: one retry of a slot is used up. -/
def afterRead (t : Target) : Variable → Target
  | slotRetryCount name =>
    match knownSlot t.board name with
    | .ok slot => { t with transfer := t.transfer.countRetry slot }
    | .error _ => t
  | _ => t

end Variable

/-- Report the value of a variable. -/
def getvar (command : String) (t : Target) : Except Fault (Reply × Target) := do
  let name ← argument command "missing var"
  let v := Variable.ofName name
  let value ← v.value t
  let response := Response.okay value
  let _ ← response.frame.mapError Fault.ofOverflow
  return ({ response }, v.afterRead t)

end Fastboot.Command
