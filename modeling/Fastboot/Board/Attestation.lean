import Fastboot.Fault

/-!
# Attestation

The service that identifies a board to a certificate authority. It turns an operation into a request
by putting a fixed mark in front, and keeps the responses that it is handed.
-/

namespace Fastboot

/-- The identity of a board, and the responses it was handed, the oldest first. -/
structure Attestation where
  dh : Option String := none
  uuid : Option String := none
  responses : List ByteArray := []

namespace Attestation

/-- What every request starts with. -/
def requestMark : ByteArray :=
  "CA-REQ:".toUTF8

def getDh (a : Attestation) : Except BoardError String :=
  match a.dh with
  | some dh => .ok dh
  | none => .error (.failed "no dh")

def getUuid (a : Attestation) : Except BoardError String :=
  match a.uuid with
  | some uuid => .ok uuid
  | none => .error (.failed "no uuid")

/-- The request for an operation. -/
def request (_ : Attestation) (operation : ByteArray) : Except BoardError ByteArray :=
  if operation.size = 0 then .error (.failed "empty operation")
  else .ok (requestMark ++ operation)

/-- Keep a response. -/
def accept (a : Attestation) (response : ByteArray) : Except BoardError Attestation :=
  if response.size = 0 then .error (.failed "empty response")
  else .ok { a with responses := a.responses ++ [response] }

end Attestation

end Fastboot
