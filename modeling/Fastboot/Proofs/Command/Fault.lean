import Fastboot.Proofs.Command.Outcome

/-!
# The faults of commands

A command fails with a fault, or it succeeds and its answer is no `FAIL`. Most faults tell the host what
it has done wrong, or what the board cannot do. `Fault.staging` is of another kind: the program has
reached beyond the bounds of its own staging buffer.

While the last download lies within the buffer there is one command that can fail so, and one reason for
it: the request that the attestation service makes is longer than the buffer it is to be left in
(`fault?_eq_staging_iff`).
-/

namespace Fastboot

/-- The fault that a computation fails with, if it fails. -/
def Fault.of? {α : Type} : Except Fault α → Option Fault
  | .ok _ => none
  | .error fault => some fault

@[simp]
theorem Fault.of?_eq_some_iff {α : Type} {x : Except Fault α} {fault : Fault} :
    Fault.of? x = some fault ↔ x = .error fault := by
  cases x <;> simp [Fault.of?]

namespace Command

/-- The fault that a command fails with, if it fails. -/
def fault? (command : String) (t : Target) : Option Fault :=
  match Verb.ofCommand? command with
  | none => some .unknownCommand
  | some verb => Fault.of? (execute verb command t).1

/-- The request to the certificate authority that would be made from the last download is longer than the
staging buffer, and `range` is what it would take up. -/
def Oversized (t : Target) (range : RangeError) : Prop :=
  ∃ attestation operation request, t.board.attestation = some attestation ∧
    t.downloaded = .ok operation ∧ attestation.request operation = .ok request ∧
      request.size < UInt32.size ∧ t.staging.capacity < request.size ∧
        range = ⟨0, request.size, t.staging.capacity⟩

/-- If `x` fails, it is not for a range beyond the bounds of the staging buffer. -/
def InBounds {α : Type} (x : Except Fault α) : Prop :=
  ∀ range, x ≠ .error (.staging range)

variable {α β : Type} {command : String} {verb : Verb} {t : Target} {range : RangeError}
  {fault : Fault}

/-! ### Computations within bounds -/

theorem inBounds_ok (a : α) : InBounds (.ok a) :=
  fun _ => nofun

theorem inBounds_error (h : ∀ range, fault ≠ .staging range) :
    InBounds (.error fault : Except Fault α) :=
  fun range herror => h range (Except.error.inj herror)

theorem InBounds.bind {x : Except Fault α} {next : α → Except Fault β} (hx : InBounds x)
    (hnext : ∀ a, InBounds (next a)) : InBounds (x >>= next) := by
  cases x with
  | error fault => exact fun range herror => hx range (congrArg _ (Except.error.inj herror))
  | ok a => exact hnext a

theorem inBounds_require {x : Option α} (h : ∀ range, fault ≠ .staging range) :
    InBounds (require x fault) := by
  cases x with
  | none => exact inBounds_error h
  | some a => exact inBounds_ok a

theorem inBounds_mapError {ε : Type} {x : Except ε α} {toFault : ε → Fault}
    (h : ∀ e range, toFault e ≠ .staging range) : InBounds (x.mapError toFault) := by
  cases x with
  | error e => exact inBounds_error (h e)
  | ok a => exact inBounds_ok a

theorem inBounds_byBoard (x : Except BoardError α) : InBounds (byBoard x) :=
  inBounds_mapError fun e range => by cases e <;> nofun

theorem inBounds_argument (command missing : String) : InBounds (argument command missing) :=
  inBounds_require fun _ => nofun

theorem inBounds_subcommand (table : List (String × α)) (verb command unknown : String) :
    InBounds (subcommand table verb command unknown) :=
  inBounds_require fun _ => nofun

theorem inBounds_downloaded {payload : ByteArray} (h : t.downloaded = .ok payload) :
    InBounds t.downloaded :=
  h ▸ inBounds_ok payload

/-! ### Commands within bounds -/

theorem inBounds_reboot (command : String) (t : Target) : InBounds (reboot command t) := by
  unfold reboot
  split
  · split
    · exact inBounds_ok _
    · exact inBounds_error fun _ => nofun
  · exact inBounds_ok _

theorem inBounds_setActive (command : String) (t : Target) : InBounds (setActive command t) := by
  refine .bind (inBounds_argument _ _) fun name => ?_
  refine .bind (inBounds_require fun _ => nofun) fun slots => ?_
  refine .bind (inBounds_require fun _ => nofun) fun slot => ?_
  exact .bind (inBounds_byBoard _) fun _ => inBounds_ok _

theorem inBounds_flashing (command : String) (t : Target) : InBounds (flashing command t) := by
  refine .bind (inBounds_subcommand _ _ _ _) fun request => ?_
  refine .bind (inBounds_require fun _ => nofun) fun state => ?_
  exact .bind (inBounds_require fun _ => nofun) fun _ => inBounds_ok _

theorem inBounds_erase (command : String) (t : Target) : InBounds (erase command t) := by
  refine .bind (inBounds_argument _ _) fun name => ?_
  refine .bind (inBounds_require fun _ => nofun) fun storage => ?_
  exact .bind (inBounds_byBoard _) fun _ => inBounds_ok _

theorem inBounds_upload (t : Target) : InBounds (upload t) := by
  unfold upload
  dsimp only
  split
  · exact inBounds_error fun _ => nofun
  · exact inBounds_ok _

theorem inBounds_download (command : String) (t : Target) :
    InBounds (download command t).1 := by
  unfold download
  dsimp only
  split
  · exact inBounds_error fun _ => nofun
  · split
    · exact inBounds_ok _
    · exact inBounds_error fun _ => nofun

theorem inBounds_requireUnlocked (b : Board) : InBounds (requireUnlocked b) := by
  unfold requireUnlocked
  split
  · exact inBounds_ok _
  · split
    · exact inBounds_ok _
    · exact inBounds_error fun _ => nofun
    · rename_i e _
      exact inBounds_error fun _ => by cases e <;> nofun

/-- A flash reads the last download, and nothing beyond it. -/
theorem inBounds_flash (command : String) (hdownloaded : InBounds t.downloaded) :
    InBounds (flash command t) := by
  refine .bind (inBounds_requireUnlocked _) fun _ => ?_
  refine .bind (inBounds_argument _ _) fun name => ?_
  refine .bind (inBounds_require fun _ => nofun) fun storage => ?_
  refine .bind hdownloaded fun image => ?_
  exact .bind (inBounds_byBoard _) fun _ => inBounds_ok _

theorem inBounds_knownSlot (b : Board) (name : Option String) : InBounds (knownSlot b name) :=
  .bind (inBounds_require fun _ => nofun) fun _ => inBounds_require fun _ => nofun

theorem inBounds_knownPartition (b : Board) (name : Option String) :
    InBounds (knownPartition b name) :=
  .bind (inBounds_require fun _ => nofun) fun _ =>
    .bind (inBounds_require fun _ => nofun) fun _ => inBounds_require fun _ => nofun

/-- No variable has to do with the data that is staged. -/
theorem inBounds_value (t : Target) (v : Variable) : InBounds (v.value t) := by
  cases v with
  | unlocked =>
    simp only [Variable.value]
    split
    · exact inBounds_ok _
    · refine .bind (inBounds_byBoard _) fun state => ?_
      cases state <;> exact inBounds_ok _
  | serialNumber | custom => exact inBounds_require fun _ => nofun
  | attestationDh | attestationUuid =>
    exact .bind (inBounds_require fun _ => nofun) fun _ => inBounds_mapError fun _ _ => nofun
  | slotCount | slotSuffixes =>
    exact .bind (inBounds_require fun _ => nofun) fun _ => inBounds_ok _
  | currentSlot =>
    refine .bind (inBounds_require fun _ => nofun) fun slots => ?_
    exact .bind (inBounds_mapError fun _ _ => nofun) fun _ => inBounds_ok _
  | hasSlot name =>
    refine .bind (inBounds_require fun _ => nofun) fun slots => ?_
    refine .bind (inBounds_require fun _ => nofun) fun name => ?_
    split
    · exact inBounds_ok _
    · exact inBounds_error fun _ => nofun
  | slotProperty name | slotRetryCount name =>
    exact .bind (inBounds_knownSlot _ _) fun _ => inBounds_ok _
  | partitionType name | partitionSize name =>
    exact .bind (inBounds_knownPartition _ _) fun _ => inBounds_ok _
  | _ => exact inBounds_ok _

theorem inBounds_getvar (command : String) (t : Target) : InBounds (getvar command t) := by
  refine .bind (inBounds_argument _ _) fun name => ?_
  refine .bind (inBounds_value _ _) fun value => ?_
  exact .bind (inBounds_mapError fun _ _ => nofun) fun _ => inBounds_ok _

theorem inBounds_setCaResponse (hdownloaded : InBounds t.downloaded) :
    InBounds (setCaResponse t) := by
  refine .bind (inBounds_require fun _ => nofun) fun attestation => ?_
  refine .bind hdownloaded fun response => ?_
  exact .bind (inBounds_mapError fun _ _ => nofun) fun _ => inBounds_ok _

theorem inBounds_fuseAttributes (hdownloaded : InBounds t.downloaded) :
    InBounds (fuseAttributes t) := by
  refine .bind (inBounds_require fun _ => nofun) fun lock => ?_
  refine .bind hdownloaded fun payload => ?_
  split
  · exact inBounds_error fun _ => nofun
  · exact inBounds_ok _

theorem inBounds_fuseKey (hdownloaded : InBounds t.downloaded) : InBounds (fuseKey t) := by
  refine .bind (inBounds_require fun _ => nofun) fun lock => ?_
  refine .bind hdownloaded fun payload => ?_
  split
  · exact inBounds_error fun _ => nofun
  · exact inBounds_ok _

/-- Every vendor command but the one that leaves something in the staging buffer. -/
theorem inBounds_run {request : VendorRequest} (hrequest : request ≠ .getCaRequest)
    (hdownloaded : InBounds t.downloaded) : InBounds (request.run t) := by
  cases request with
  | getCaRequest => exact absurd rfl hrequest
  | unlock => exact inBounds_error fun _ => nofun
  | setCaResponse => exact inBounds_setCaResponse hdownloaded
  | fuseAttributes => exact inBounds_fuseAttributes hdownloaded
  | fuseKey => exact inBounds_fuseKey hdownloaded
  | format =>
    refine .bind (inBounds_require fun _ => nofun) fun storage => ?_
    exact .bind (inBounds_byBoard _) fun _ => inBounds_ok _
  | lockBoot | disableUnlockBoot =>
    exact .bind (inBounds_require fun _ => nofun) fun _ => inBounds_ok _
  | unlockBoot =>
    refine .bind (inBounds_require fun _ => nofun) fun lock => ?_
    refine .bind (inBounds_byBoard _) fun state => ?_
    split
    · exact inBounds_error fun _ => nofun
    · exact inBounds_ok _

/-! ### The request that does not fit -/

theorem bind_eq_error_iff {x : Except Fault α} {next : α → Except Fault β} :
    x >>= next = .error fault ↔ x = .error fault ∨ ∃ a, x = .ok a ∧ next a = .error fault := by
  cases x <;> simp [bind, Except.bind]

theorem mapError_eq_error_iff {ε : Type} {x : Except ε α} {toFault : ε → Fault} :
    x.mapError toFault = .error fault ↔ ∃ e, x = .error e ∧ toFault e = fault := by
  cases x <;> simp [Except.mapError]

/-- A computation that starts within bounds leaves them later on, if it does. -/
theorem exists_of_bind {x : Except Fault α} {next : α → Except Fault β}
    (h : x >>= next = .error (.staging range)) (hx : InBounds x) :
    ∃ a, x = .ok a ∧ next a = .error (.staging range) :=
  (bind_eq_error_iff.mp h).resolve_left (hx range)

/-- The request is made, and only then it turns out whether there is room for it. -/
theorem getCaRequest_eq_error_iff (hdownloaded : InBounds t.downloaded) :
    getCaRequest t = .error (.staging range) ↔ Oversized t range := by
  constructor
  · intro h
    obtain ⟨attestation, hattestation, h⟩ := exists_of_bind h (inBounds_require fun _ => nofun)
    obtain ⟨operation, hoperation, h⟩ := exists_of_bind h hdownloaded
    obtain ⟨request, hrequest, h⟩ := exists_of_bind h (inBounds_mapError fun _ _ => nofun)
    split at h
    · cases h
    rename_i hsize
    rcases bind_eq_error_iff.mp h with h | ⟨staging, -, h⟩
    · obtain ⟨e, hwrite, he⟩ := mapError_eq_error_iff.mp h
      cases he
      obtain ⟨hover, hrange⟩ := Buffer.writeAt_eq_error_iff.mp hwrite
      exact ⟨attestation, operation, request, require_eq_ok_iff.mp hattestation, hoperation,
        mapError_eq_ok_iff.mp hrequest, by omega, by omega, hrange⟩
    · cases h
  · rintro ⟨attestation, operation, request, hattestation, hoperation, hrequest, hsize, hover, rfl⟩
    have hwrite : t.staging.writeAt 0 request = .error ⟨0, request.size, t.staging.capacity⟩ :=
      Buffer.writeAt_eq_error_iff.mpr ⟨by omega, rfl⟩
    refine bind_eq_error_iff.mpr (.inr ⟨attestation, require_eq_ok_iff.mpr hattestation, ?_⟩)
    refine bind_eq_error_iff.mpr (.inr ⟨operation, hoperation, ?_⟩)
    refine bind_eq_error_iff.mpr (.inr ⟨request, mapError_eq_ok_iff.mpr hrequest, ?_⟩)
    rw [if_neg (Nat.not_le_of_lt hsize)]
    exact bind_eq_error_iff.mpr (.inl (mapError_eq_error_iff.mpr ⟨_, hwrite, rfl⟩))

/-- A vendor command fails for a range exactly if it asks for a request that is oversized. -/
theorem oem_eq_error_iff (hdownloaded : InBounds t.downloaded) :
    oem command t = .error (.staging range) ↔
      vendorRequest command = .ok .getCaRequest ∧ Oversized t range := by
  constructor
  · intro h
    obtain ⟨request, hrequest, h⟩ := exists_of_bind h (inBounds_subcommand _ _ _ _)
    have hrun : request.run t = .error (.staging range) := by
      rcases bind_eq_error_iff.mp h with h | ⟨_, _, h⟩
      · exact h
      · cases h
    by_cases hca : request = .getCaRequest
    · subst hca
      exact ⟨hrequest, (getCaRequest_eq_error_iff hdownloaded).mp hrun⟩
    · exact absurd hrun (inBounds_run hca hdownloaded range)
  · rintro ⟨hrequest, hover⟩
    refine bind_eq_error_iff.mpr (.inr ⟨.getCaRequest, hrequest, ?_⟩)
    exact bind_eq_error_iff.mpr (.inl ((getCaRequest_eq_error_iff hdownloaded).mpr hover))

theorem attempt_eq_error_iff {run : Target → Except Fault (Reply × Target)} :
    (t.attempt run).1 = .error fault ↔ run t = .error fault := by
  unfold Target.attempt
  cases run t <;> simp

theorem inBounds_attempt (run : Target → Except Fault (Reply × Target))
    (hexecute : execute verb command t = t.attempt run) (h : InBounds (run t)) :
    InBounds (execute verb command t).1 := by
  rw [hexecute]
  exact fun range herror => h range (attempt_eq_error_iff.mp herror)

/-- No other verb reaches beyond the buffer. -/
theorem inBounds_execute (hverb : verb ≠ .oem) (hdownloaded : InBounds t.downloaded) :
    InBounds (execute verb command t).1 := by
  cases verb with
  | oem => exact absurd rfl hverb
  | boot | continueBoot => exact inBounds_ok _
  | download => exact inBounds_download command t
  | reboot => exact inBounds_attempt (reboot command) rfl (inBounds_reboot command t)
  | getvar => exact inBounds_attempt (getvar command) rfl (inBounds_getvar command t)
  | upload => exact inBounds_attempt upload rfl (inBounds_upload t)
  | setActive => exact inBounds_attempt (setActive command) rfl (inBounds_setActive command t)
  | flashing => exact inBounds_attempt (flashing command) rfl (inBounds_flashing command t)
  | flash => exact inBounds_attempt (flash command) rfl (inBounds_flash command hdownloaded)
  | erase => exact inBounds_attempt (erase command) rfl (inBounds_erase command t)

/-- **The one fault for a range.** While the last download can be read, a command reaches beyond the
staging buffer exactly if it asks for a request to the certificate authority that does not fit there. -/
theorem fault?_eq_staging_iff (hdownloaded : InBounds t.downloaded) :
    fault? command t = some (.staging range) ↔ AsksCa command ∧ Oversized t range := by
  unfold fault? AsksCa
  cases hverb : Verb.ofCommand? command with
  | none => simp
  | some verb =>
    simp only [Fault.of?_eq_some_iff, Option.some.injEq]
    by_cases hoem : verb = .oem
    · subst hoem
      rw [show execute .oem command t = t.attempt (oem command) from rfl, attempt_eq_error_iff,
        oem_eq_error_iff hdownloaded, and_iff_right rfl]
    · constructor
      · intro h
        exact absurd h (inBounds_execute hoem hdownloaded range)
      · rintro ⟨⟨hasked, -⟩, -⟩
        exact absurd hasked hoem

/-! ### Faults and answers -/

theorem isFail_of_okay {reply : Reply} (h : reply = .okay) : reply.response.isFail = false :=
  h ▸ rfl

theorem isFail_upload {t' : Target} {reply : Reply} (h : upload t = .ok (reply, t')) :
    reply.response.isFail = false := by
  unfold upload at h
  dsimp only at h
  split at h <;> cases h
  rfl

theorem isFail_download {reply : Reply} (h : (download command t).1 = .ok reply) :
    reply.response.isFail = false := by
  unfold download at h
  dsimp only at h
  split at h
  · cases h
  split at h <;> cases h
  rfl

theorem isFail_attempt {reply : Reply} (h : (execute verb command t).1 = .ok reply)
    (run : Target → Except Fault (Reply × Target))
    (hexecute : execute verb command t = t.attempt run)
    (hok : ∀ {reply t'}, run t = .ok (reply, t') → reply.response.isFail = false) :
    reply.response.isFail = false := by
  rw [hexecute, Target.attempt] at h
  cases hrun : run t with
  | error fault =>
    rw [hrun] at h
    cases h
  | ok result =>
    rw [hrun] at h
    cases h
    exact hok hrun

/-- A command that succeeds does not answer by a `FAIL`. -/
theorem isFail_execute {reply : Reply} (h : (execute verb command t).1 = .ok reply) :
    reply.response.isFail = false := by
  cases verb with
  | boot | continueBoot =>
    cases h
    rfl
  | download => exact isFail_download h
  | upload => exact isFail_attempt h upload rfl isFail_upload
  | getvar =>
    refine isFail_attempt h (getvar command) rfl fun hrun => ?_
    obtain ⟨value, -, rfl, -⟩ := getvar_eq_ok hrun
    rfl
  | reboot =>
    refine isFail_attempt h (reboot command) rfl fun hrun => ?_
    rw [(reboot_eq_ok hrun).1]
    rfl
  | setActive =>
    exact isFail_attempt h (setActive command) rfl fun hrun => isFail_of_okay (setActive_eq_ok hrun).1
  | flashing =>
    exact isFail_attempt h (flashing command) rfl fun hrun => isFail_of_okay (flashing_eq_ok hrun).1
  | flash =>
    exact isFail_attempt h (flash command) rfl fun hrun => isFail_of_okay (flash_eq_ok hrun).1
  | erase =>
    exact isFail_attempt h (erase command) rfl fun hrun => isFail_of_okay (erase_eq_ok hrun).1
  | oem => exact isFail_attempt h (oem command) rfl fun hrun => isFail_of_okay (oem_eq_ok hrun).1

/-- **A command answers by a `FAIL` exactly if it fails**, and the `FAIL` has the message of its fault. -/
theorem answers_fault? (command : String) (t : Target) :
    match fault? command t with
    | some fault => (dispatch command t).1 = .ofFault fault
    | none => (dispatch command t).1.response.isFail = false := by
  unfold fault? dispatch
  cases Verb.ofCommand? command with
  | none => rfl
  | some verb =>
    dsimp only
    cases hexecute : (execute verb command t).1 with
    | error fault => simp only [Fault.of?, replyOf]
    | ok reply => exact isFail_execute hexecute

end Command

end Fastboot
