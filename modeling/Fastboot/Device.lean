import Fastboot.Command.Execute
import Fastboot.Controller

/-!
# The device

A `Device` is a target on the bus. The controller drives it through the completions of its two
requests: `Device.onOutComplete` takes a command or a chunk of a download, and `Device.onInComplete`
does what the frame that went out was to lead to. Which of the two kinds a transfer is depends on the
mode, and what follows a frame on the continuation that was installed with it.

* A completion is worked off without the controller (`Device.receive`, `Device.proceed`); what comes of
  it is one frame for the host, or none. `Device.hand` gives that to the controller, where it takes the
  place of a frame still queued. An answer that does not fit a frame is replaced by a `FAIL`.
* After every incoming transfer the next request is armed (`Device.arm`): for data during a download,
  for a command otherwise.
* An action that ends the session runs when its acknowledgement has gone out, and the device takes
  nothing after it.
-/

namespace Fastboot

/-- Where a device is in its life. -/
inductive Lifecycle where
  /-- Bound, its endpoints not enabled. -/
  | bound
  | enabled
  /-- An action that ends the session has run. -/
  | halted
  deriving DecidableEq, Repr

def Lifecycle.name : Lifecycle → String
  | bound => "bound"
  | enabled => "enabled"
  | halted => "halted"

/-- A target on the bus. -/
structure Device extends Target where
  usb : Controller
  /-- The buffer for incoming commands, there while the device is enabled. -/
  inbound : Option Buffer := none
  /-- The length of the request that was armed last. -/
  requested : Nat := 0
  lifecycle : Lifecycle := .bound

namespace Device

/-- Bind a device, if the settings are valid. -/
def bind (settings : Settings) (usb : Controller) (board : Board) : Except SettingsError Device :=
  match settings.check with
  | .ok () => .ok { toTarget := .start settings board, usb }
  | .error e => .error e

def isHalted (d : Device) : Bool :=
  d.lifecycle = .halted

/-- Change the part of a device that commands see. -/
@[inline]
def onTarget (d : Device) (f : Target → Target) : Device :=
  { d with toTarget := f d.toTarget }

/-- Change the transfer state, and report the change of mode that comes with it. -/
def transition (d : Device) (change : Transfer → Transfer) : Device :=
  d.onTarget (·.transition change)

/-! ### Enabling and disabling -/

/-- Arm a request, and note its length whether it is accepted or not. -/
def request (d : Device) (length : Nat) : Except QueueError Unit × Device :=
  let (outcome, usb) := d.usb.queueOut length
  (outcome, { d with usb, requested := length })

/-- Start a session and wait for its first command. A device that has halted stays halted. -/
def enable (d : Device) : Except QueueError Unit × Device :=
  if d.lifecycle = .halted then (.ok (), d)
  else
    { d with
      inbound := some (.empty d.settings.bufferSize)
      transfer := {}
      lifecycle := .enabled }.request d.settings.bufferSize

/-- End the session and cancel what is queued. -/
def disable (d : Device) : Device :=
  if d.lifecycle = .enabled then
    { d with
      usb := d.usb.cancelIn
      inbound := none
      requested := 0
      transfer := {}
      lifecycle := .bound }
  else d

/-- Take the device down and give its board back. -/
def unbind (d : Device) : Board × Controller :=
  let d := d.disable
  (d.board, d.usb)

/-! ### Frames for the host -/

/-- A frame that a device has for its host. -/
inductive Offer where
  /-- A status frame: the answer to a command, or the end of a data phase. -/
  | reply (reply : Reply)
  /-- A chunk of an upload. -/
  | chunk (data : ByteArray)

/-- Queue the frame of a response, with what is to follow it. A frame that is refused is followed by
nothing. -/
def queueResponse (d : Device) (response : Response) (next : Continuation) (frame : Frame) :
    Device :=
  match d.usb.replaceIn frame.bytes with
  | (.ok (), usb) =>
    { d with usb, transfer := { d.transfer with next, inFlight := true } }.onTarget
      (·.emit (.response response.text))
  | (.error _, usb) => { d with usb, transfer := { d.transfer with next := .done } }

/-- Answer with one frame. -/
def sendReply (d : Device) (reply : Reply) : Device :=
  match reply.response.frame with
  | .ok frame => d.queueResponse reply.response reply.next frame
  | .error _ =>
    let response := Response.fail Fault.responseTooLong.message
    match response.frame with
    | .ok frame => d.queueResponse response .done frame
    | .error _ => d

/-- Queue a chunk of an upload. If it is refused, the upload ends without an answer. -/
def queueChunk (d : Device) (chunk : ByteArray) : Device :=
  match d.usb.replaceIn chunk with
  | (.ok (), usb) =>
    { d with
      usb
      transfer :=
        { d.transfer with startUpload := true, next := .uploadChunk, inFlight := true } }
  | (.error _, usb) =>
    { d with
      usb
      transfer := { d.transfer with startUpload := true, next := .done } }.transition .finishUpload

/-- Hand a frame to the controller, if there is one. -/
def hand (d : Device) : Option Offer → Device
  | none => d
  | some (.reply reply) => d.sendReply reply
  | some (.chunk data) => d.queueChunk data

/-- Arm the request for what the mode expects next. -/
def arm (d : Device) : Device :=
  if d.lifecycle = .enabled then
    let length := match d.transfer.mode with
      | .downloading => d.transfer.requestLength d.settings.bufferSize d.usb.maxPacket
      | .idle | .uploading => d.settings.bufferSize
    (d.request length).2
  else d

/-! ### Incoming transfers -/

/-- The text of a command: what stands before the first zero byte. -/
def commandText? (received : ByteArray) : Option String :=
  String.fromUTF8? ⟨received.data.takeWhile (· != 0)⟩

/-- Carry out a command and find the reply to it. -/
def runCommand (d : Device) (received : ByteArray) : Reply × Device :=
  match commandText? received with
  | none => (.ofFault (.malformed "invalid command"), d)
  | some command =>
    let (reply, target) := Command.dispatch command (d.toTarget.emit (.command command))
    (reply, { d with toTarget := target })

/-- Take a command from the inbound buffer, which is cleared behind it. -/
def receiveInbound (d : Device) (data : ByteArray) : Device × Option Offer :=
  match d.inbound with
  | none => (d, none)
  | some inbound =>
    match inbound.writeAt 0 data with
    | .error _ => (d, none)
    | .ok inbound =>
      match inbound.take data.size with
      | .error _ => (d, none)
      | .ok received =>
        let (reply, d) := d.runCommand received
        ({ d with inbound := some (.empty inbound.capacity) }, some (.reply reply))

/-- End the upload that is under way, if there is one. -/
def endUpload (d : Device) : Device :=
  if d.transfer.mode = .uploading then d.transition .finishUpload else d

/-- Take a command. It ends an upload that is under way. -/
def receiveCommand (d : Device) (status : TransferStatus) (data : ByteArray) :
    Device × Option Offer :=
  match status with
  | .failed _ => (d, none)
  | .completed =>
    let d := d.endUpload
    if d.settings.bufferSize ≤ data.size then
      (d, some (.reply (.ofFault (.malformed "buffer overflow"))))
    else d.receiveInbound data

/-- End a download that has failed. -/
def failDownload (d : Device) (fault : Fault) : Device × Option Offer :=
  (d.transition .abortDownload, some (.reply (.ofFault fault)))

/-- Count the bytes of a chunk that has been stored. -/
def countDownload (d : Device) (count : Nat) : Device :=
  let old := d.transfer.downloadBytes
  let new := old + UInt32.ofNat count
  let transfer := { d.transfer with downloadBytes := new }
  { d with transfer }.onTarget (·.progress .download old new transfer.downloadSize)

/-- Answer a download that is complete; wait on for one that is not. -/
def closeDownload (d : Device) : Device × Option Offer :=
  if d.transfer.downloadRemaining = 0 then
    let bytes := d.transfer.downloadBytes.toNat
    let d := d.onTarget (·.emit (.finished .download bytes))
    (d.transition .finishDownload, some (.reply .okay))
  else (d, none)

/-- Take a chunk of a download. What goes beyond the announced size is dropped. -/
def receiveData (d : Device) (status : TransferStatus) (data : ByteArray) : Device × Option Offer :=
  match status with
  | .failed code => d.failDownload (.transferFailed code)
  | .completed =>
    let count := min data.size d.transfer.downloadRemaining.toNat
    let (outcome, target) :=
      d.toTarget.stage d.transfer.downloadBytes.toNat (data.extract 0 count)
    let d := { d with toTarget := target }
    match outcome with
    | .error range => d.failDownload (.staging range)
    | .ok () => (d.countDownload count).closeDownload

/-- Take an incoming transfer as what the mode says it is: a command, or a chunk of a download. -/
def receive (d : Device) (status : TransferStatus) (data : ByteArray) : Device × Option Offer :=
  match d.transfer.mode with
  | .downloading => d.receiveData status data
  | .idle | .uploading => d.receiveCommand status data

/-- An incoming transfer has completed. -/
def onOutComplete (d : Device) (status : TransferStatus) (data : ByteArray) : Device :=
  if d.lifecycle = .enabled then
    let (d, offer) := d.receive status data
    (d.hand offer).arm
  else d

/-! ### Outgoing transfers -/

/-- Count the bytes of the chunk that has gone out. The header of the upload does not count. -/
def countUpload (d : Device) (actual : Nat) : Device :=
  if d.transfer.startUpload then
    let old := d.transfer.uploadBytes
    let new := old + UInt32.ofNat (min actual d.transfer.uploadRemaining.toNat)
    let transfer := { d.transfer with uploadBytes := new }
    { d with transfer }.onTarget (·.progress .upload old new transfer.uploadSize)
  else d

/-- The next chunk of an upload, or the answer to it if all has gone out. -/
def sendUpload (d : Device) : Device × Option Offer :=
  let remaining := d.transfer.uploadRemaining.toNat
  if remaining = 0 then
    let bytes := d.transfer.uploadBytes.toNat
    let d := d.onTarget (·.emit (.finished .upload bytes))
    (d.transition .finishUpload, some (.reply .okay))
  else
    match d.staging.read d.transfer.uploadBytes.toNat (min remaining d.settings.bufferSize) with
    | .ok chunk => (d, some (.chunk chunk))
    | .error range => (d.transition .finishUpload, some (.reply (.ofFault (.staging range))))

/-- The image that a boot hands to the platform. -/
def bootImage (d : Device) : ByteArray :=
  match d.staging.take d.transfer.downloadBytes.toNat with
  | .ok image => image
  | .error _ => .empty

/-- Run an action that ends the session. A boot that comes back is followed by a reset. -/
def runExit (d : Device) (action : Exit) : Device :=
  let d := { d with lifecycle := .halted }.onTarget (·.emit (.exit action))
  let platform := match action with
    | .reset => d.board.platform.reset
    | .boot => (d.board.platform.boot d.bootImage).2.reset
    | .detach => d.board.platform.detach
  { d with board := { d.board with platform } }

/-- Go on to what the frame that has gone out was to lead to, `actual` bytes of it sent. -/
def proceed (d : Device) (status : TransferStatus) (actual : Nat) : Device × Option Offer :=
  let next := d.transfer.next
  let d := { d with transfer := { d.transfer with next := .done, inFlight := false } }
  match status, next with
  | .failed code, .uploadChunk =>
    (d.transition .finishUpload, some (.reply (.ofFault (.transferFailed code))))
  | .failed _, _ => (d, none)
  | .completed, .done => (d, none)
  | .completed, .uploadChunk => (d.countUpload actual).sendUpload
  | .completed, .exit action => (d.runExit action, none)

/-- The queued frame has completed, `actual` bytes of it. -/
def onInComplete (d : Device) (status : TransferStatus) (actual : Nat) : Device :=
  if d.lifecycle = .enabled then
    let (d, offer) := d.proceed status actual
    d.hand offer
  else d

/-! ### The host's end of the bus -/

/-- Complete the queued frame, if there is one, whole. -/
def completeIn (d : Device) : Option ByteArray × Device :=
  let (frame, usb) := d.usb.completeIn
  let d := { d with usb }
  match frame with
  | none => (none, d)
  | some frame => (some frame, d.onInComplete .completed frame.size)

/-- Complete at most `limit` frames, one after the other, while there are some. -/
def completeFrames : Nat → Device → List ByteArray × Device
  | 0, d => ([], d)
  | limit + 1, d =>
    match d.completeIn with
    | (none, d) => ([], d)
    | (some frame, d) =>
      let (frames, d) := completeFrames limit d
      (frame :: frames, d)

/-- Complete frames until none is queued. Each chunk of an upload holds at least one byte, so there
are no more of them than bytes to go; one frame goes before them and one behind. -/
def drain (d : Device) : List ByteArray × Device :=
  completeFrames (d.transfer.uploadRemaining.toNat + 3) d

end Device

end Fastboot
