/-!
# The USB controller

A `Controller` has two endpoints. The host fills a request that is armed on the incoming one, and
collects the frame that is queued on the outgoing one; there is room for one of each. It keeps the
frames that went out and counts those cancelled before they did.

A new frame takes the place of the one queued, if any (`Controller.replaceIn`). A controller that
delivers completions from elsewhere has to do that in one step; others may cancel and queue in turn,
which is `Controller.cancelAndQueue`.

For tests, the next attempt to queue a frame can be made to fail, and so can all attempts to arm a
request.
-/

namespace Fastboot

/-- An endpoint, seen from the host. -/
inductive Endpoint where
  /-- Frames go from the device to the host. -/
  | bulkIn
  /-- Transfers come from the host to the device. -/
  | bulkOut
  deriving DecidableEq, Repr

def Endpoint.name : Endpoint → String
  | bulkIn => "ep-in"
  | bulkOut => "ep-out"

/-- Why a controller refused a request. -/
inductive QueueError where
  | busy (endpoint : Endpoint)
  | failed (endpoint : Endpoint) (reason : String)
  deriving DecidableEq, Repr

def QueueError.message : QueueError → String
  | busy endpoint => "Request already queued on " ++ endpoint.name
  | failed endpoint reason => "Queue failed on " ++ endpoint.name ++ ": " ++ reason

/-- How a transfer ended. -/
inductive TransferStatus where
  | completed
  | failed (code : Int)
  deriving DecidableEq, Repr

/-- The two endpoints, with a record of what went out. -/
structure Controller where
  /-- The largest packet of the incoming endpoint. -/
  maxPacket : Nat := 512
  /-- The length of the armed request. -/
  armed : Option Nat := none
  /-- The queued frame. -/
  pending : Option ByteArray := none
  /-- The frames that went out, the oldest first. -/
  sent : Array ByteArray := #[]
  cancelled : Nat := 0
  /-- Whether the next attempt to queue a frame fails. -/
  failNext : Bool := false
  /-- Whether attempts to arm a request fail. -/
  refusesOut : Bool := false
  /-- Whether replacing the queued frame is one step. -/
  replacesAtOnce : Bool := true

namespace Controller

/-- Arm a request for up to `length` bytes. -/
def queueOut (c : Controller) (length : Nat) : Except QueueError Unit × Controller :=
  if c.refusesOut then (.error (.busy .bulkOut), c)
  else (.ok (), { c with armed := some length })

/-- Take the armed request, as the host does that fills it. -/
def takeOut (c : Controller) : Option Nat × Controller :=
  (c.armed, { c with armed := none })

/-- The error that tests inject. -/
def injected : QueueError :=
  .failed .bulkIn "injected failure"

/-- Queue a frame. -/
def queueIn (c : Controller) (frame : ByteArray) : Except QueueError Unit × Controller :=
  if c.failNext then (.error injected, { c with failNext := false })
  else if c.pending.isSome then (.error (.busy .bulkIn), c)
  else (.ok (), { c with pending := some frame })

/-- Cancel the queued frame, if any. -/
def cancelIn (c : Controller) : Controller :=
  if c.pending.isSome then { c with pending := none, cancelled := c.cancelled + 1 } else c

/-- Cancel the queued frame, then queue another. -/
def cancelAndQueue (c : Controller) (frame : ByteArray) : Except QueueError Unit × Controller :=
  c.cancelIn.queueIn frame

/-- Queue a frame in the place of the one queued, which is cancelled even if the new one is then
refused. -/
def replaceIn (c : Controller) (frame : ByteArray) : Except QueueError Unit × Controller :=
  if c.replacesAtOnce then
    let c := { c with
      pending := none
      cancelled := c.cancelled + if c.pending.isSome then 1 else 0 }
    if c.failNext then (.error injected, { c with failNext := false })
    else (.ok (), { c with pending := some frame })
  else c.cancelAndQueue frame

/-- Complete the queued frame: it has gone out. -/
def completeIn (c : Controller) : Option ByteArray × Controller :=
  match c.pending with
  | none => (none, c)
  | some frame => (some frame, { c with pending := none, sent := c.sent.push frame })

/-- Make the next attempt to queue a frame fail. -/
def failNextQueue (c : Controller) : Controller :=
  { c with failNext := true }

end Controller

end Fastboot
