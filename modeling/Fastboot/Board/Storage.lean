import Fastboot.Fault
import Fastboot.Table

/-!
# Storage

Partitions and their contents. A partition is added behind all those present; a name that is added
again gets a new range there and keeps its image. A write replaces the whole image of a partition, an
erase takes it away.

* `image?_of_write` and `image?_of_erase` say what the two do to the images.
-/

namespace Fastboot

/-- A named range of the storage. -/
structure Partition where
  name : String
  offset : UInt64
  size : UInt64
  /-- The kind of file system, such as `ext4`. -/
  kind : String
  deriving DecidableEq, Repr

/-- Partitions and their images. -/
structure Storage where
  partitions : Table String Partition := .empty
  images : Table String ByteArray := .empty
  /-- How often the partition table has been written anew. -/
  tableWrites : Nat := 0
  /-- With what message every write fails, if it does. -/
  failWrites : Option String := none
  /-- Whether commands see the partition table. -/
  listed : Bool := true
  /-- Whether commands can write and erase partitions. -/
  writable : Bool := true
  /-- Whether the partition table can be written anew. -/
  formattable : Bool := true

namespace Storage

/-- Where a partition added now would start: the end of the one that ends last. -/
def nextOffset (s : Storage) : UInt64 :=
  s.partitions.values.foldl (fun m p => max m (p.offset + p.size)) 0

/-- Add a partition behind the others. -/
def addPartition (s : Storage) (name : String) (size : UInt64) (kind : String) : Storage :=
  { s with partitions := s.partitions.insert name ⟨name, s.nextOffset, size, kind⟩ }

def find? (s : Storage) (name : String) : Option Partition :=
  s.partitions.get? name

/-- What a partition holds, if it was written and not erased since. -/
def image? (s : Storage) (name : String) : Option ByteArray :=
  s.images.get? name

/-- Replace the image of a partition. -/
def write (s : Storage) (name : String) (image : ByteArray) : Except BoardError Storage :=
  match s.failWrites with
  | some message => .error (.failed message)
  | none =>
    match s.find? name with
    | none => .error (.failed "partition does not exist")
    | some p =>
      if p.size.toNat < image.size then .error (.failed "too large for partition")
      else .ok { s with images := s.images.insert name image }

/-- Take the image of a partition away. -/
def erase (s : Storage) (name : String) : Except BoardError Storage :=
  match s.find? name with
  | none => .error (.failed "partition does not exist")
  | some _ => .ok { s with images := s.images.erase name }

/-- Write the partition table anew. -/
def writeTable (s : Storage) : Except BoardError Storage :=
  if s.formattable then .ok { s with tableWrites := s.tableWrites + 1 } else .error .unsupported

theorem image?_of_write {s s' : Storage} {name : String} {image : ByteArray}
    (h : s.write name image = .ok s') (q : String) :
    s'.image? q = if q = name then some image else s.image? q := by
  unfold write at h
  split at h
  · cases h
  split at h
  · cases h
  split at h
  · cases h
  cases h
  exact Table.get?_insert s.images name image q

theorem image?_of_erase {s s' : Storage} {name : String} (h : s.erase name = .ok s')
    (q : String) : s'.image? q = if q = name then none else s.image? q := by
  unfold erase at h
  split at h
  · cases h
  cases h
  exact Table.get?_erase s.images name q

end Storage

end Fastboot
