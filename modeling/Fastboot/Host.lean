import Fastboot.Device
import Fastboot.Text.Quoted

/-!
# The host

A `Host` plays the host's part against a device: it fills the requests that the device arms and
collects the frames that the device queues. `Host.command` sends one command and expects one answer,
`Host.download` and `Host.upload` run a whole data phase. What the device does that the protocol does
not allow is a `HostError`; a `FAIL` answer is not.

Every action gives its outcome and the host afterwards, and an action that fails halfway leaves what
it did.
-/

namespace Fastboot

/-- Why an action of the host came to nothing. -/
inductive HostError where
  | halted
  | notArmed
  | tooLong (length armed : Nat)
  | answerCount (command : String) (count : Nat)
  | malformedAnswer (command : String)
  /-- The size of the data does not fit in 32 bits. -/
  | downloadTooLarge
  | announced (size expected : UInt32)
  | stopped (offset : Nat)
  | answeredEarly (offset : Nat)
  | downloadAnswerCount (count : Nat)
  | malformedDownloadAnswer
  | noUploadHeader
  | uploadRefused (answer : Response)
  | malformedUploadHeader
  | noUploadStatus
  | uploadFailed (answer : Response)
  | malformedUploadStatus
  | uploadSize (size expected : Nat)
  deriving DecidableEq, Repr

/-- What went wrong, from the outside in. -/
def HostError.messages : HostError → List String
  | halted => ["device has left fastboot"]
  | notArmed => ["no OUT request armed"]
  | tooLong length armed => [s!"transfer of {length} bytes exceeds armed request of {armed}"]
  | answerCount command count =>
    ["expected one response to " ++ Text.quoted command ++ s!", got {count}"]
  | malformedAnswer command => ["malformed response to " ++ Text.quoted command]
  | downloadTooLarge =>
    ["download larger than 4 GiB", "out of range integral type conversion attempted"]
  | announced size expected =>
    ["device announced 0x" ++ Text.hex 0 size.toNat ++ " bytes, expected 0x"
      ++ Text.hex 0 expected.toNat]
  | stopped offset => ["device stopped receiving at 0x" ++ Text.hex 0 offset]
  | answeredEarly offset => ["device answered mid-download at 0x" ++ Text.hex 0 offset]
  | downloadAnswerCount count => [s!"expected one response after download, got {count}"]
  | malformedDownloadAnswer => ["malformed response after download"]
  | noUploadHeader => ["no response to upload"]
  | uploadRefused answer => ["upload refused: " ++ answer.text]
  | malformedUploadHeader => ["malformed upload header"]
  | noUploadStatus => ["upload ended without status"]
  | uploadFailed answer => ["upload failed: " ++ answer.text]
  | malformedUploadStatus => ["malformed upload status"]
  | uploadSize size expected => [s!"upload returned {size} bytes, announced {expected}"]

/-- Why a session could not be started. -/
inductive ConnectError where
  | settings (error : SettingsError)
  | controller (error : QueueError)
  deriving DecidableEq, Repr

def ConnectError.message : ConnectError → String
  | settings error => error.message
  | controller error => error.message

/-- A host at work with a device. -/
structure Host where
  device : Device
  /-- The largest transfer that the host sends at once. -/
  chunk : Nat

namespace Host

/-- Bind a device to a new controller and enable it. -/
def connect (settings : Settings) (board : Board) : Except ConnectError Host :=
  match Device.bind settings {} board with
  | .error e => .error (.settings e)
  | .ok device =>
    match device.enable with
    | (.error e, _) => .error (.controller e)
    | (.ok (), device) => .ok { device, chunk := settings.bufferSize }

/-- Send data in pieces of at most `chunk` bytes, and of one byte at least. -/
def withChunk (h : Host) (chunk : Nat) : Host :=
  { h with chunk := max chunk 1 }

/-- Fill the armed request, without collecting any frame. The request is gone even if the bytes are too
many for it. -/
def deliver (h : Host) (bytes : ByteArray) : Except HostError Unit × Host :=
  if h.device.isHalted then (.error .halted, h)
  else
    let (armed, usb) := h.device.usb.takeOut
    let h := { h with device := { h.device with usb } }
    match armed with
    | none => (.error .notArmed, h)
    | some armed =>
      if bytes.size ≤ armed then
        (.ok (), { h with device := h.device.onOutComplete .completed bytes })
      else (.error (.tooLong bytes.size armed), h)

/-- Collect frames until none is queued. -/
def pump (h : Host) : List ByteArray × Host :=
  let (frames, device) := h.device.drain
  (frames, { h with device })

/-- Send a command and collect all that the device answers. -/
def send (h : Host) (command : String) : Except HostError (List ByteArray) × Host :=
  match h.deliver command.toUTF8 with
  | (.error e, h) => (.error e, h)
  | (.ok (), h) =>
    let (frames, h) := h.pump
    (.ok frames, h)

/-- The only one of the frames, as a response. -/
def onlyAnswer (frames : List ByteArray) (count : Nat → HostError) (malformed : HostError) :
    Except HostError Response :=
  match frames with
  | [frame] =>
    match Response.parse? frame with
    | some response => .ok response
    | none => .error malformed
  | _ => .error (count frames.length)

/-- Send a command that is answered by one status frame. -/
def command (h : Host) (command : String) : Except HostError Response × Host :=
  match h.send command with
  | (.error e, h) => (.error e, h)
  | (.ok frames, h) => (onlyAnswer frames (.answerCount command) (.malformedAnswer command), h)

/-! ### Download -/

/-- Send the data from an offset on. Each piece is as long as the device and the host allow, and not
empty, so there are no more pieces than bytes. -/
def sendData (data : ByteArray) : Nat → Nat → Host → Except HostError Unit × Host
  | 0, _, h => (.ok (), h)
  | pieces + 1, offset, h =>
    if data.size ≤ offset then (.ok (), h)
    else
      match h.device.usb.armed with
      | none => (.error (.stopped offset), h)
      | some armed =>
        let stop := min data.size (offset + min armed h.chunk)
        match h.deliver (data.extract offset stop) with
        | (.error e, h) => (.error e, h)
        | (.ok (), h) =>
          if stop ≠ data.size ∧ h.device.usb.pending.isSome then (.error (.answeredEarly stop), h)
          else sendData data pieces stop h

/-- The command that announces a download. -/
def downloadCommand (size : UInt32) : String :=
  "download:" ++ Text.hex 8 size.toNat

/-- Download data to the device. The answer is the last one of the device: that of the data phase, or
the one that refused it. -/
def download (h : Host) (data : ByteArray) : Except HostError Response × Host :=
  if UInt32.size ≤ data.size then (.error .downloadTooLarge, h)
  else
    let size := UInt32.ofNat data.size
    match h.command (downloadCommand size) with
    | (.error e, h) => (.error e, h)
    | (.ok (.data announced), h) =>
      if announced ≠ size then (.error (.announced announced size), h)
      else
        match sendData data data.size 0 h with
        | (.error e, h) => (.error e, h)
        | (.ok (), h) =>
          let (frames, h) := h.pump
          (onlyAnswer frames .downloadAnswerCount .malformedDownloadAnswer, h)
    | (.ok answer, h) => (.ok answer, h)

/-! ### Upload -/

/-- The bytes of the frames, one behind the other. -/
def joined (frames : List ByteArray) : ByteArray :=
  frames.foldl (· ++ ·) .empty

/-- The data in the frames of an upload: a header, the data, and a status. -/
def uploaded (frames : List ByteArray) : Except HostError ByteArray :=
  match frames with
  | [] => .error .noUploadHeader
  | header :: frames =>
    match Response.parse? header with
    | none => .error .malformedUploadHeader
    | some (.data size) =>
      match frames.getLast? with
      | none => .error .noUploadStatus
      | some status =>
        match Response.parse? status with
        | none => .error .malformedUploadStatus
        | some (.okay _) =>
          let data := joined frames.dropLast
          if data.size = size.toNat then .ok data
          else .error (.uploadSize data.size size.toNat)
        | some answer => .error (.uploadFailed answer)
    | some answer => .error (.uploadRefused answer)

/-- Upload the data that the device has. -/
def upload (h : Host) : Except HostError ByteArray × Host :=
  match h.send "upload" with
  | (.error e, h) => (.error e, h)
  | (.ok frames, h) => (uploaded frames, h)

end Host

end Fastboot
