import Fastboot.Simulator.Run

/-!
# The simulator as a program

Runs `Simulator.run` on real files, and prints what it gives.
-/

namespace Fastboot

open Simulator

private def fileError : IO.Error → FileError
  | .noFileOrDirectory .. => .notFound
  | .inappropriateType _ 20 _ => .notADirectory
  | .inappropriateType .. => .isDirectory
  | .invalidArgument _ 36 _ => .nameTooLong
  | .permissionDenied .. => .other "Permission denied (os error 13)"
  | e => .other (toString e)

private def attempt {α : Type} (action : IO α) : IO (Except FileError α) := do
  try
    return .ok (← action)
  catch e =>
    return .error (fileError e)

private def realFiles : Files IO where
  read path := attempt (IO.FS.readBinFile path)
  write path bytes := attempt (IO.FS.writeBinFile path bytes)
  input := do
    (← IO.getStdin).readBinToEnd

end Fastboot

def main (arguments : List String) : IO UInt32 := do
  let outcome ← Fastboot.Simulator.run Fastboot.realFiles arguments
  (← IO.getStdout).putStr outcome.output
  (← IO.getStderr).putStr outcome.errors
  return UInt32.ofNat outcome.code
