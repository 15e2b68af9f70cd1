import Fastboot.Table

/-!
# Transfer state

What a device knows about its exchange with the host: which kind of data the endpoints carry, how
far the data phase has come, and what the completion of the queued answer leads to.

Counters are words of 32 bits, the width of an announced size. `Transfer.downloadRemaining` and
`Transfer.uploadRemaining` stop at zero. The retry counts of the slots live here too.
-/

namespace Fastboot

/-- Who owns the endpoints. -/
inductive Mode where
  /-- Incoming transfers are commands. -/
  | idle
  /-- Incoming transfers are data of a download. -/
  | downloading
  /-- Outgoing transfers are data of an upload. -/
  | uploading
  deriving DecidableEq, Repr

def Mode.name : Mode → String
  | idle => "IDLE"
  | downloading => "DOWNLOADING"
  | uploading => "UPLOADING"

/-- An action that ends the session. It runs once its acknowledgement has left the device. -/
inductive Exit where
  | reset
  | boot
  /-- Leave the bus and go on with the normal boot. -/
  | detach
  deriving DecidableEq, Repr

def Exit.name : Exit → String
  | reset => "reset"
  | boot => "boot"
  | detach => "detach"

/-- What the completion of the queued frame leads to. -/
inductive Continuation where
  | done
  /-- Send the next chunk of the upload, or its closing answer. -/
  | uploadChunk
  | exit (action : Exit)
  deriving DecidableEq, Repr

/-- The state of the exchange. -/
structure Transfer where
  mode : Mode := .idle
  /-- The size of the download under way; zero outside one. -/
  downloadSize : UInt32 := 0
  /-- The bytes received. They stay after the end of the download: that many bytes at the start of
  the staging buffer are what commands consume. -/
  downloadBytes : UInt32 := 0
  uploadSize : UInt32 := 0
  uploadBytes : UInt32 := 0
  /-- Whether the header of the upload has gone out, so that completions count as data. -/
  startUpload : Bool := false
  next : Continuation := .done
  /-- Whether a frame is queued that has not completed. -/
  inFlight : Bool := false
  retryCounts : Table Char UInt32 := .empty
  deriving DecidableEq, Repr

namespace Transfer

/-- How much of the download is still to come. -/
def downloadRemaining (t : Transfer) : UInt32 :=
  if t.downloadBytes ≤ t.downloadSize then t.downloadSize - t.downloadBytes else 0

/-- How much of the upload is still to go. -/
def uploadRemaining (t : Transfer) : UInt32 :=
  if t.uploadBytes ≤ t.uploadSize then t.uploadSize - t.uploadBytes else 0

/-- The length of the next request for download data: all that is still to come, rounded up to
whole packets, or the whole endpoint buffer if that is less. -/
def requestLength (t : Transfer) (bufferSize maxPacket : Nat) : Nat :=
  let remaining := t.downloadRemaining.toNat
  if bufferSize < remaining then bufferSize
  else
    match remaining % max maxPacket 1 with
    | 0 => remaining
    | extra => remaining + (maxPacket - extra)

/-- End a download that is complete. Its data can be read back by an upload. -/
def finishDownload (t : Transfer) : Transfer :=
  { t with downloadSize := 0, uploadSize := t.downloadBytes, uploadBytes := 0, mode := .idle }

/-- Drop a download. The staging buffer holds no whole image any more. -/
def abortDownload (t : Transfer) : Transfer :=
  { t with downloadSize := 0, downloadBytes := 0, uploadSize := 0, uploadBytes := 0, mode := .idle }

/-- End or drop an upload. The next one needs a new source. -/
def finishUpload (t : Transfer) : Transfer :=
  { t with uploadSize := 0, uploadBytes := 0, startUpload := false, mode := .idle }

/-- The retry count of a slot, zero if it never had one. -/
def retryCount (t : Transfer) (slot : Char) : UInt32 :=
  (t.retryCounts.get? slot).getD 0

/-- Use up one retry of a slot, unless none is left. -/
def countRetry (t : Transfer) (slot : Char) : Transfer :=
  let n := t.retryCount slot
  { t with retryCounts := t.retryCounts.insert slot (if n = 0 then 0 else n - 1) }

theorem toNat_downloadRemaining (t : Transfer) :
    t.downloadRemaining.toNat = t.downloadSize.toNat - t.downloadBytes.toNat := by
  unfold downloadRemaining
  split
  · rename_i h
    exact UInt32.toNat_sub_of_le _ _ h
  · rename_i h
    rw [UInt32.le_iff_toNat_le] at h
    simp only [UInt32.reduceToNat]
    omega

theorem toNat_uploadRemaining (t : Transfer) :
    t.uploadRemaining.toNat = t.uploadSize.toNat - t.uploadBytes.toNat := by
  unfold uploadRemaining
  split
  · rename_i h
    exact UInt32.toNat_sub_of_le _ _ h
  · rename_i h
    rw [UInt32.le_iff_toNat_le] at h
    simp only [UInt32.reduceToNat]
    omega

end Transfer

/-- How many bytes of a data phase one progress mark stands for. -/
def bytesPerMark : Nat := 0x20000

/-- How many progress marks fill a line. -/
def marksPerLine : Nat := 74

/-- The progress mark that is due when a counter moves from `old` to `new`, if any: whether it ends
a line. A move across several marks still makes one. -/
def progressMark? (old new : Nat) : Option Bool :=
  if old / bytesPerMark = new / bytesPerMark then none
  else some (new / bytesPerMark % marksPerLine = 0)

end Fastboot
