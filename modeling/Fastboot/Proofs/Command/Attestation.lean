import Fastboot.Proofs.Buffer.Prefix
import Fastboot.Proofs.Command.Deed

/-!
# Requests to the certificate authority

The attestation service makes a request by putting a mark in front of the operation that was downloaded, and the
request goes where the operation is: to the start of the staging buffer. `dispatch_getCaRequest_of_le` says
what there is behind the command if there is room for the mark, and `exists_dispatch_getCaRequest_of_lt` that
nothing has changed otherwise, although the request was made by then.

No command takes the service away from the board (`Deed.attestation`).
-/

namespace Fastboot.Command

variable {command : String} {t : Target} {b : Board} {reply : Reply} {request : VendorRequest}
  {service : Attestation} {operation : ByteArray}

/-! ### The service stays -/

theorem VendorRequest.Deed.attestation (h : request.Deed t b)
    (hsome : t.board.attestation.isSome = true) : b.attestation.isSome = true := by
  cases h with
  | format => exact hsome
  | getCaRequest => exact hsome
  | setCaResponse => rfl
  | setBoot => exact hsome
  | fuseAttributes => exact hsome
  | fuseKey => exact hsome

/-- Whatever a command does to the board, an attestation service that was there is there afterwards. -/
theorem Deed.attestation (h : Deed command t reply b)
    (hsome : t.board.attestation.isSome = true) : b.attestation.isSome = true := by
  cases h with
  | refused => exact hsome
  | idle => exact hsome
  | reboot => exact hsome
  | setActive => exact hsome
  | flashing => exact hsome
  | flash => exact hsome
  | erase => exact hsome
  | vendor _ _ hdeed => exact hdeed.attestation hsome

/-! ### The request -/

/-- The mark takes seven bytes. -/
theorem size_request (operation : ByteArray) :
    (Attestation.requestMark ++ operation).size = operation.size + 7 := by
  rw [ByteArray.size_append, Nat.add_comm]
  rfl

/-- The command does as its request does, and an error leaves the target as it was. -/
theorem dispatch_getCaRequest (t : Target) : dispatch "oem at-get-ca-request" t =
    match getCaRequest t with
    | .ok t' => (.okay, t')
    | .error fault => (.ofFault fault, t) := by
  have hverb : Verb.ofCommand? "oem at-get-ca-request" = some .oem := by decide
  have hrequest : vendorRequest "oem at-get-ca-request" = .ok .getCaRequest := by decide
  have hoem : oem "oem at-get-ca-request" t =
      (VendorRequest.getCaRequest.run t >>= fun t' => .ok (.okay, t')) := by
    unfold oem
    rw [show subcommand VendorRequest.table "oem" "oem at-get-ca-request" "unknown oem command" =
      .ok .getCaRequest from hrequest]
    rfl
  simp only [dispatch, hverb, execute, Target.attempt, hoem, VendorRequest.run]
  cases getCaRequest t with
  | ok t' => rfl
  | error fault => rfl

/-- **A request for which there is room takes the place of the operation.** -/
theorem dispatch_getCaRequest_of_le (hservice : t.board.attestation = some service)
    (hoperation : t.downloaded = .ok operation) (hpos : 0 < operation.size)
    (hlt : t.staging.capacity < UInt32.size) (hroom : operation.size + 7 ≤ t.staging.capacity) :
    ∃ staging, t.staging.writeAt 0 (Attestation.requestMark ++ operation) = .ok staging ∧
      dispatch "oem at-get-ca-request" t = (.okay, { t with
        staging
        transfer := { t.transfer with
          uploadSize := .ofNat (Attestation.requestMark ++ operation).size, uploadBytes := 0 } }) := by
  have hsize := size_request operation
  have hmade : service.request operation = .ok (Attestation.requestMark ++ operation) :=
    if_neg (Nat.ne_of_gt hpos)
  obtain ⟨staging, hwrite⟩ := Buffer.exists_writeAt_eq_ok_iff.mpr
    (show 0 + (Attestation.requestMark ++ operation).size ≤ t.staging.capacity by omega)
  refine ⟨staging, hwrite, ?_⟩
  have hrun : getCaRequest t = .ok { t with
      staging
      transfer := { t.transfer with
        uploadSize := .ofNat (Attestation.requestMark ++ operation).size, uploadBytes := 0 } } := by
    refine bind_eq_ok_iff.mpr ⟨service, require_eq_ok_iff.mpr hservice, ?_⟩
    refine bind_eq_ok_iff.mpr ⟨operation, hoperation, ?_⟩
    refine bind_eq_ok_iff.mpr ⟨_, mapError_eq_ok_iff.mpr hmade, ?_⟩
    rw [if_neg (by omega)]
    exact bind_eq_ok_iff.mpr ⟨staging, mapError_eq_ok_iff.mpr hwrite, rfl⟩
  rw [dispatch_getCaRequest, hrun]

/-- **A request for which there is no room changes nothing.** -/
theorem exists_dispatch_getCaRequest_of_lt (hoperation : t.downloaded = .ok operation)
    (hover : t.staging.capacity < operation.size + 7) :
    ∃ fault, dispatch "oem at-get-ca-request" t = (.ofFault fault, t) := by
  rw [dispatch_getCaRequest]
  cases hrun : getCaRequest t with
  | error fault => exact ⟨fault, rfl⟩
  | ok t' =>
    -- a request that is left in the staging buffer has room there
    obtain ⟨operation', staging, hoperation', -, hwrite, -⟩ := getCaRequest_eq_ok hrun
    obtain rfl := Except.ok.inj (hoperation.symm.trans hoperation')
    have hroom := Buffer.exists_writeAt_eq_ok_iff.mp ⟨staging, hwrite⟩
    have hsize := size_request operation
    omega

end Fastboot.Command
