import Fastboot.Command.Argument
import Fastboot.Command.Size

/-!
# Data phases

`download:` announces data for the staging buffer and `upload` asks for data from it. Both only set
the data phase up; the device runs it.

A download gives up the data of the one before even if it is refused, so `download` is the one command
that changes the target although it fails.
-/

namespace Fastboot.Command

/-- Give up the data of the last download, and the source of the next upload with it. -/
def dropData (t : Target) : Target :=
  { t with transfer := { t.transfer with downloadBytes := 0, uploadSize := 0, uploadBytes := 0 } }

/-- The size that a download announces, if it is less than `2 ^ 64`. No argument announces none. -/
def announcedSize? (command : String) : Option Nat :=
  match (splitArgument command).2 with
  | some argument => parseSize? argument
  | none => some 0

/-- Announce a download of as many bytes as the argument says. -/
def download (command : String) (t : Target) : Except Fault Reply × Target :=
  let t := dropData t
  if announcedSize? command = some 0 then (.error .invalidSize, t)
  else
    match (announcedSize? command).filter (· ≤ t.staging.capacity) with
    | some n =>
      let size := UInt32.ofNat n
      (.ok ⟨.data size, .done⟩,
        t.transition fun s => { s with downloadSize := size, mode := .downloading })
    | none => (.error .tooLarge, { t with transfer := { t.transfer with downloadSize := 0 } })

/-- Start an upload of the data that is there. -/
def upload (t : Target) : Except Fault (Reply × Target) :=
  let size := t.transfer.uploadSize
  if size = 0 then .error .invalidSize
  else
    .ok (⟨.data size, .uploadChunk⟩,
      t.transition fun s => { s with startUpload := false, uploadBytes := 0, mode := .uploading })

end Fastboot.Command
