import Fastboot.Board

/-!
# The simulated board

Two slots, no lock, a handful of partitions and an attestation service.
-/

namespace Fastboot.Simulator

/-- The partitions, all of them empty. -/
def simulatedStorage : Storage :=
  [("misc", 0x100000, "raw"),
   ("vbmeta_a", 0x10000, "raw"),
   ("vbmeta_b", 0x10000, "raw"),
   ("boot_a", 0x2000000, "raw"),
   ("boot_b", 0x2000000, "raw"),
   ("system_a", 0x80000000, "ext4"),
   ("system_b", 0x80000000, "ext4"),
   ("userdata", 0x100000000, "ext4")].foldl
    (fun s (name, size, kind) => s.addPartition name size kind) {}

def simulatedEnvironment : Table String String :=
  (Table.empty.insert "serial#" "FBSIM0000001").insert "fastboot.hw-revision" "sim-1"

def simulatedBoard : Board :=
  { environment := some simulatedEnvironment
    storage := some simulatedStorage
    slots := some {}
    lock := some {}
    attestation := some { dh := some "sim-dh", uuid := some "sim-uuid" } }

end Fastboot.Simulator
