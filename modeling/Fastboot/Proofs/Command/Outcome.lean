import Fastboot.Command.Execute
import Mathlib.Tactic.Common

/-!
# What a command can come to

A command is answered once, and what it does besides depends on little: `Outcome command t reply t'`
lists the six ways in which a target `t` can be left as `t'` with the answer `reply`, and says for each
which part of the staging buffer and of the exchange has changed. Whatever else differs between `t` and
`t'` is the board.

`outcome_dispatch` says that there is no seventh way. What holds of all commands is read off it, by one
case per outcome. Where the board matters, the lemmas on commands that succeed say what each has made of
it; no other proof opens the commands.
-/

namespace Fastboot.Command

/-- The action that a verb asks for, of those that end a session. -/
def Verb.exit? : Verb → Option Exit
  | reboot => some .reset
  | boot => some .boot
  | continueBoot => some .detach
  | _ => none

/-- What a `flashing` command asks for. -/
def lockRequest (command : String) : Except Fault LockRequest :=
  subcommand LockRequest.table "flashing" command "unknown flashing command"

/-- What an `oem` command asks for. -/
def vendorRequest (command : String) : Except Fault VendorRequest :=
  subcommand VendorRequest.table "oem" command "unknown oem command"

/-- The state of the boot lock that a vendor command asks for, if it asks for one. -/
def VendorRequest.bootLock? : VendorRequest → Option BootLock
  | lockBoot => some .locked
  | unlockBoot => some .unlocked
  | disableUnlockBoot => some .unlockDisabled
  | _ => none

/-- The command asks for a request to the certificate authority. -/
def AsksCa (command : String) : Prop :=
  Verb.ofCommand? command = some .oem ∧ vendorRequest command = .ok .getCaRequest

instance (command : String) : Decidable (AsksCa command) :=
  inferInstanceAs (Decidable (_ ∧ _))

/-- The answer `reply` of a command, and the target `t'` that it leaves behind. -/
inductive Outcome (command : String) (t : Target) : Reply → Target → Prop where
  /-- An answer that opens no data phase. At most the board has changed, and the retries of a slot. -/
  | answer (response : Response) (board : Board) (retryCounts : Table Char UInt32)
      (hverb : Verb.ofCommand? command ≠ some .download)
      (hca : AsksCa command → response.isOkay = false)
      (hresponse : ∀ size, response ≠ .data size)
      (hplatform : board.platform.exits = t.board.platform.exits) :
      Outcome command t ⟨response, .done⟩
        { t with board, transfer := { t.transfer with retryCounts } }
  /-- The acknowledgement of an action that ends the session. -/
  | exit (verb : Verb) (action : Exit) (board : Board)
      (hverb : Verb.ofCommand? command = some verb) (haction : verb.exit? = some action)
      (hplatform : board.platform.exits = t.board.platform.exits) :
      Outcome command t (.exit action) { t with board }
  /-- The refusal of a download. The data of the last one is given up. -/
  | refuse (fault : Fault) (downloadSize : UInt32)
      (hverb : Verb.ofCommand? command = some .download)
      (hsize : downloadSize = 0 ∨ downloadSize = t.transfer.downloadSize) :
      Outcome command t (.ofFault fault)
        { t with transfer :=
          { t.transfer with downloadSize, downloadBytes := 0, uploadSize := 0, uploadBytes := 0 } }
  /-- The start of a download that fits the staging buffer. -/
  | download (size : Nat) (hverb : Verb.ofCommand? command = some .download)
      (hpos : 0 < size) (hle : size ≤ t.staging.capacity) :
      Outcome command t ⟨.data (.ofNat size), .done⟩
        ((dropData t).transition fun s => { s with downloadSize := .ofNat size, mode := .downloading })
  /-- The start of an upload. -/
  | upload (hverb : Verb.ofCommand? command = some .upload) (hpos : t.transfer.uploadSize ≠ 0) :
      Outcome command t ⟨.data t.transfer.uploadSize, .uploadChunk⟩
        (t.transition fun s => { s with startUpload := false, uploadBytes := 0, mode := .uploading })
  /-- A request to the certificate authority, made from the last download and left in its place. -/
  | request (operation : ByteArray) (staging : Buffer) (hca : AsksCa command)
      (hoperation : t.downloaded = .ok operation)
      (hsize : (Attestation.requestMark ++ operation).size < UInt32.size)
      (hstaging : t.staging.writeAt 0 (Attestation.requestMark ++ operation) = .ok staging) :
      Outcome command t .okay
        { t with
          staging
          transfer :=
            { t.transfer with
              uploadSize := .ofNat (Attestation.requestMark ++ operation).size
              uploadBytes := 0 } }

/-! ### Commands that succeed -/

section Success

variable {command : String} {t t' : Target} {reply : Reply}

theorem reboot_eq_ok (h : reboot command t = .ok (reply, t')) :
    reply = .exit .reset ∧
      ∃ platform, platform.exits = t.board.platform.exits ∧
        t' = { t with board := { t.board with platform } } := by
  unfold reboot at h
  split at h
  · split at h <;> cases h
    rename_i platform hplatform
    exact ⟨rfl, platform, Platform.exits_of_setRebootFlag hplatform, rfl⟩
  · cases h
    exact ⟨rfl, t.board.platform, rfl, rfl⟩

theorem setActive_eq_ok (h : setActive command t = .ok (reply, t')) :
    reply = .okay ∧ ∃ slots, t' = { t with board := { t.board with slots := some slots } } := by
  simp only [setActive, bind_eq_ok_iff] at h
  obtain ⟨-, -, -, -, -, -, slots, -, h⟩ := h
  cases h
  exact ⟨rfl, slots, rfl⟩

theorem storage_of_flash? {b : Board} {storage : Storage} (h : b.flash? = some storage) :
    b.storage = some storage :=
  (Option.filter_eq_some_iff.mp h).1

/-- What is written to a partition is the data of the last download, and nothing protects it. -/
theorem flash_eq_ok (h : flash command t = .ok (reply, t')) :
    reply = .okay ∧ requireUnlocked t.board = .ok () ∧ ∃ name image storage storage',
      argument command "missing partition name" = .ok name ∧ t.downloaded = .ok image ∧
        t.board.flash? = some storage ∧ storage.write name image = .ok storage' ∧
        t' = { t with board := { t.board with storage := some storage' } } := by
  simp only [flash, bind_eq_ok_iff, flashOf, require_eq_ok_iff, byBoard_eq_ok_iff] at h
  obtain ⟨⟨⟩, hunlocked, name, hname, storage, hstorage, image, himage, storage', hwrite, h⟩ := h
  cases h
  exact ⟨rfl, hunlocked, name, image, storage, storage', hname, himage, hstorage, hwrite, rfl⟩

theorem erase_eq_ok (h : erase command t = .ok (reply, t')) :
    reply = .okay ∧ ∃ name storage storage',
      argument command "missing partition name" = .ok name ∧ t.board.flash? = some storage ∧
        storage.erase name = .ok storage' ∧
        t' = { t with board := { t.board with storage := some storage' } } := by
  simp only [erase, bind_eq_ok_iff, flashOf, require_eq_ok_iff, byBoard_eq_ok_iff] at h
  obtain ⟨name, hname, storage, hstorage, storage', herase, h⟩ := h
  cases h
  exact ⟨rfl, name, storage, storage', hname, hstorage, herase, rfl⟩

/-- The lock of the storage is set, and no other. -/
theorem flashing_eq_ok (h : flashing command t = .ok (reply, t')) :
    reply = .okay ∧ ∃ request state lock, lockRequest command = .ok request ∧
      request.state? = some state ∧ t.board.lock = some lock ∧
        t' = { t with board := { t.board with lock := some (lock.setFlash state) } } := by
  simp only [flashing, bind_eq_ok_iff, require_eq_ok_iff] at h
  obtain ⟨request, hrequest, state, hstate, lock, hlock, h⟩ := h
  cases h
  exact ⟨rfl, request, state, lock, hrequest, hstate, hlock, rfl⟩

/-- Reading a variable uses up at most a retry of a slot. -/
theorem afterRead_eq (t : Target) (v : Variable) :
    ∃ retryCounts, v.afterRead t = { t with transfer := { t.transfer with retryCounts } } := by
  unfold Variable.afterRead
  split
  · split
    · exact ⟨_, rfl⟩
    · exact ⟨t.transfer.retryCounts, rfl⟩
  · exact ⟨t.transfer.retryCounts, rfl⟩

theorem getvar_eq_ok (h : getvar command t = .ok (reply, t')) :
    ∃ value retryCounts, reply = { response := .okay value } ∧
      t' = { t with transfer := { t.transfer with retryCounts } } := by
  simp only [getvar, bind_eq_ok_iff] at h
  obtain ⟨name, -, value, -, -, -, h⟩ := h
  cases h
  obtain ⟨retryCounts, ht'⟩ := afterRead_eq t (Variable.ofName name)
  exact ⟨value, retryCounts, rfl, ht'⟩

theorem oem_eq_ok (h : oem command t = .ok (reply, t')) :
    reply = .okay ∧ ∃ request, vendorRequest command = .ok request ∧ request.run t = .ok t' := by
  simp only [oem, bind_eq_ok_iff] at h
  obtain ⟨request, hrequest, t'', hrun, h⟩ := h
  cases h
  exact ⟨rfl, request, hrequest, hrun⟩

/-- The request is the last download behind a fixed mark, and takes its place in the staging buffer. -/
theorem getCaRequest_eq_ok (h : getCaRequest t = .ok t') :
    ∃ operation staging, t.downloaded = .ok operation ∧
      (Attestation.requestMark ++ operation).size < UInt32.size ∧
      t.staging.writeAt 0 (Attestation.requestMark ++ operation) = .ok staging ∧
      t' = { t with
        staging
        transfer :=
          { t.transfer with
            uploadSize := .ofNat (Attestation.requestMark ++ operation).size
            uploadBytes := 0 } } := by
  simp only [getCaRequest, bind_eq_ok_iff, mapError_eq_ok_iff] at h
  obtain ⟨attestation, -, operation, hoperation, request, hrequest, h⟩ := h
  unfold Attestation.request at hrequest
  split at hrequest
  · cases hrequest
  cases hrequest
  split at h
  · cases h
  rename_i hsize
  obtain ⟨staging, hstaging, h⟩ := bind_eq_ok_iff.mp h
  cases h
  exact ⟨operation, staging, hoperation, by omega, mapError_eq_ok_iff.mp hstaging, rfl⟩

/-- The last download is handed to the attestation service. -/
theorem setCaResponse_eq_ok (h : setCaResponse t = .ok t') :
    ∃ response attestation attestation', t.downloaded = .ok response ∧
      t.board.attestation = some attestation ∧ attestation.accept response = .ok attestation' ∧
      t' = { t with board := { t.board with attestation := some attestation' } } := by
  simp only [setCaResponse, bind_eq_ok_iff, require_eq_ok_iff, mapError_eq_ok_iff] at h
  obtain ⟨attestation, hattestation, response, hresponse, attestation', haccept, h⟩ := h
  cases h
  exact ⟨response, attestation, attestation', hresponse, hattestation, haccept, rfl⟩

/-- The last download is burnt in, its digest apart. -/
theorem fuseAttributes_eq_ok (h : fuseAttributes t = .ok t') :
    ∃ payload lock, t.downloaded = .ok payload ∧ t.board.lock = some lock ∧
      payload.size = attributesSize + attributesDigestSize ∧
      t' = withLock t ((lock.writeAttributes (payload.extract 0 attributesSize)).writeAttributeHash
        (payload.extract attributesSize payload.size)).setProvisioned := by
  simp only [fuseAttributes, bind_eq_ok_iff, lockOf, require_eq_ok_iff] at h
  obtain ⟨lock, hlock, payload, hpayload, h⟩ := h
  split at h
  · cases h
  rename_i hsize
  cases h
  exact ⟨payload, lock, hpayload, hlock, Decidable.not_not.mp hsize, rfl⟩

/-- The last download is burnt in as the digest of the key. -/
theorem fuseKey_eq_ok (h : fuseKey t = .ok t') :
    ∃ payload lock, t.downloaded = .ok payload ∧ t.board.lock = some lock ∧
      payload.size = keyHashSize ∧ t' = withLock t (lock.writeKeyHash payload) := by
  simp only [fuseKey, bind_eq_ok_iff, lockOf, require_eq_ok_iff] at h
  obtain ⟨lock, hlock, payload, hpayload, h⟩ := h
  split at h
  · cases h
  rename_i hsize
  cases h
  exact ⟨payload, lock, hpayload, hlock, Decidable.not_not.mp hsize, rfl⟩

theorem format_eq_ok (h : VendorRequest.format.run t = .ok t') :
    ∃ storage storage', t.board.flash? = some storage ∧ storage.writeTable = .ok storage' ∧
      t' = { t with board := { t.board with storage := some storage' } } := by
  simp only [VendorRequest.run, bind_eq_ok_iff, require_eq_ok_iff, byBoard_eq_ok_iff] at h
  obtain ⟨storage, hstorage, storage', hwrite, h⟩ := h
  cases h
  exact ⟨storage, storage', hstorage, hwrite, rfl⟩

/-- The lock of verified boot is set to what the request asks for. It is unlocked only where that has not
been disabled. -/
theorem setBoot_eq_ok {request : VendorRequest} {state : BootLock}
    (hrequest : request.bootLock? = some state) (h : request.run t = .ok t') :
    ∃ lock, t.board.lock = some lock ∧
      (state = .unlocked → lock.boot ≠ .unlockDisabled) ∧
        t' = withLock t (lock.setBoot state) := by
  cases request with
  | lockBoot =>
    cases hrequest
    simp only [VendorRequest.run, bind_eq_ok_iff, lockOf, require_eq_ok_iff] at h
    obtain ⟨lock, hlock, h⟩ := h
    cases h
    exact ⟨lock, hlock, nofun, rfl⟩
  | disableUnlockBoot =>
    cases hrequest
    simp only [VendorRequest.run, bind_eq_ok_iff, lockOf, require_eq_ok_iff] at h
    obtain ⟨lock, hlock, h⟩ := h
    cases h
    exact ⟨lock, hlock, nofun, rfl⟩
  | unlockBoot =>
    cases hrequest
    simp only [VendorRequest.run, bind_eq_ok_iff, lockOf, require_eq_ok_iff,
      byBoard_eq_ok_iff] at h
    obtain ⟨lock, hlock, state, hstate, h⟩ := h
    split at h <;> cases h
    rename_i hable
    refine ⟨lock, hlock, fun _ hdisabled => hable ?_, rfl⟩
    unfold Lock.bootState at hstate
    split at hstate <;> cases hstate
    exact hdisabled
  | _ => cases hrequest

/-- Every vendor command but the one that asks for a request works on the board alone. -/
theorem run_eq_ok {request : VendorRequest} (hrequest : request ≠ .getCaRequest)
    (h : request.run t = .ok t') :
    ∃ board, board.platform = t.board.platform ∧ t' = { t with board } := by
  cases request with
  | getCaRequest => exact absurd rfl hrequest
  | unlock => cases h
  | format =>
    obtain ⟨-, storage, -, -, rfl⟩ := format_eq_ok h
    exact ⟨{ t.board with storage := some storage }, rfl, rfl⟩
  | setCaResponse =>
    obtain ⟨-, -, attestation', -, -, -, rfl⟩ := setCaResponse_eq_ok h
    exact ⟨{ t.board with attestation := some attestation' }, rfl, rfl⟩
  | fuseAttributes =>
    obtain ⟨-, -, -, -, -, rfl⟩ := fuseAttributes_eq_ok h
    exact ⟨{ t.board with lock := some _ }, rfl, rfl⟩
  | fuseKey =>
    obtain ⟨-, -, -, -, -, rfl⟩ := fuseKey_eq_ok h
    exact ⟨{ t.board with lock := some _ }, rfl, rfl⟩
  | lockBoot | unlockBoot | disableUnlockBoot =>
    obtain ⟨-, -, -, rfl⟩ := setBoot_eq_ok rfl h
    exact ⟨{ t.board with lock := some _ }, rfl, rfl⟩

end Success

/-! ### The outcome of a command -/

section Dispatch

variable {command : String} {t : Target}

/-- An answer that has changed the board and nothing else. -/
theorem Outcome.of_board {response : Response} {board : Board}
    (hverb : Verb.ofCommand? command ≠ some .download)
    (hca : AsksCa command → response.isOkay = false)
    (hresponse : ∀ size, response ≠ .data size)
    (hplatform : board.platform.exits = t.board.platform.exits) :
    Outcome command t ⟨response, .done⟩ { t with board } :=
  .answer response board t.transfer.retryCounts hverb hca hresponse hplatform

/-- A command that fails is answered by its fault and changes nothing, unless it is a download. -/
theorem Outcome.of_fault (hverb : Verb.ofCommand? command ≠ some .download) (fault : Fault) :
    Outcome command t (.ofFault fault) t :=
  .of_board hverb (fun _ => rfl) (fun _ => nofun) rfl

/-- For a command other than a download it is enough to know what it comes to when it succeeds. -/
theorem outcome_attempt (hverb : Verb.ofCommand? command ≠ some .download)
    {run : Target → Except Fault (Reply × Target)}
    (hok : ∀ {reply t'}, run t = .ok (reply, t') → Outcome command t reply t') :
    Outcome command t (replyOf (t.attempt run).1) (t.attempt run).2 := by
  unfold Target.attempt
  cases hrun : run t with
  | error fault => exact .of_fault hverb fault
  | ok result => exact hok hrun

theorem outcome_download (hverb : Verb.ofCommand? command = some .download) :
    Outcome command t (replyOf (download command t).1) (download command t).2 := by
  unfold download
  dsimp only
  split
  · exact .refuse .invalidSize t.transfer.downloadSize hverb (.inr rfl)
  rename_i hzero
  split
  · rename_i n hn
    -- a size of zero has been refused by now
    obtain ⟨hsize, hle⟩ := Option.filter_eq_some_iff.mp hn
    have hpos : 0 < n := Nat.pos_of_ne_zero fun h => hzero (h ▸ hsize)
    exact .download n hverb hpos (of_decide_eq_true hle)
  · exact .refuse .tooLarge 0 hverb (.inl rfl)

theorem outcome_upload (hverb : Verb.ofCommand? command = some .upload) {reply : Reply}
    {t' : Target} (h : upload t = .ok (reply, t')) : Outcome command t reply t' := by
  unfold upload at h
  dsimp only at h
  split at h <;> cases h
  rename_i hpos
  exact .upload hverb hpos

theorem outcome_oem (hverb : Verb.ofCommand? command = some .oem) {reply : Reply} {t' : Target}
    (h : oem command t = .ok (reply, t')) : Outcome command t reply t' := by
  obtain ⟨rfl, request, hrequest, hrun⟩ := oem_eq_ok h
  by_cases hca : request = .getCaRequest
  · subst hca
    obtain ⟨operation, staging, hoperation, hsize, hstaging, rfl⟩ := getCaRequest_eq_ok hrun
    exact .request operation staging ⟨hverb, hrequest⟩ hoperation hsize hstaging
  · obtain ⟨board, hplatform, rfl⟩ := run_eq_ok hca hrun
    refine .of_board (by simp [hverb]) (fun hasks => ?_) (fun _ => nofun)
      (congrArg Platform.exits hplatform)
    exact absurd (Except.ok.inj (hrequest.symm.trans hasks.2)) hca

/-- For the verb of a command there is no way other than the six. -/
theorem outcome_execute {verb : Verb} (hverb : Verb.ofCommand? command = some verb) :
    Outcome command t (replyOf (execute verb command t).1) (execute verb command t).2 := by
  have hca : verb ≠ .oem → ∀ {response : Response}, AsksCa command → response.isOkay = false :=
    fun hne _ hasks => absurd (Option.some.inj (hverb.symm.trans hasks.1)) hne
  have hdownload : verb ≠ .download → Verb.ofCommand? command ≠ some .download :=
    fun hne h => hne (Option.some.inj (hverb.symm.trans h))
  unfold execute
  cases verb with
  | download => exact outcome_download hverb
  | boot => exact .exit .boot .boot t.board hverb rfl rfl
  | continueBoot => exact .exit .continueBoot .detach t.board hverb rfl rfl
  | upload => exact outcome_attempt (hdownload nofun) (outcome_upload hverb)
  | oem => exact outcome_attempt (hdownload nofun) (outcome_oem hverb)
  | reboot =>
    refine outcome_attempt (hdownload nofun) fun h => ?_
    obtain ⟨rfl, platform, hplatform, rfl⟩ := reboot_eq_ok h
    exact .exit .reboot .reset { t.board with platform } hverb rfl hplatform
  | getvar =>
    refine outcome_attempt (hdownload nofun) fun h => ?_
    obtain ⟨value, retryCounts, rfl, rfl⟩ := getvar_eq_ok h
    exact .answer _ t.board retryCounts (hdownload nofun) (hca nofun) (fun _ => nofun) rfl
  | setActive =>
    refine outcome_attempt (hdownload nofun) fun h => ?_
    obtain ⟨rfl, slots, rfl⟩ := setActive_eq_ok h
    exact .of_board (hdownload nofun) (hca nofun) (fun _ => nofun) rfl
  | flashing =>
    refine outcome_attempt (hdownload nofun) fun h => ?_
    obtain ⟨rfl, -, -, -, -, -, -, rfl⟩ := flashing_eq_ok h
    exact .of_board (hdownload nofun) (hca nofun) (fun _ => nofun) rfl
  | flash =>
    refine outcome_attempt (hdownload nofun) fun h => ?_
    obtain ⟨rfl, -, -, -, -, storage, -, -, -, -, rfl⟩ := flash_eq_ok h
    exact .of_board (hdownload nofun) (hca nofun) (fun _ => nofun) rfl
  | erase =>
    refine outcome_attempt (hdownload nofun) fun h => ?_
    obtain ⟨rfl, -, -, storage, -, -, -, rfl⟩ := erase_eq_ok h
    exact .of_board (hdownload nofun) (hca nofun) (fun _ => nofun) rfl

/-- **What commands come to.** There is no way other than the six. -/
theorem outcome_dispatch (command : String) (t : Target) :
    Outcome command t (dispatch command t).1 (dispatch command t).2 := by
  unfold dispatch
  cases hverb : Verb.ofCommand? command with
  | none => exact .of_fault (by simp [hverb]) .unknownCommand
  | some verb => exact outcome_execute hverb

end Dispatch

end Fastboot.Command
