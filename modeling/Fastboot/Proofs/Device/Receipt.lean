import Fastboot.Proofs.Device.Run

/-!
# What was downloaded last

A `Receipt` is what the driver of a device can tell of the last download from the calls it has made and
the frames that were offered for them: none that counts, one under way, or one that is whole. A download
that was refused or broke off leaves none behind, and so does the start or the end of a session. Since
its end, requests to the certificate authority may have been made from a download that is whole; they
are counted.

The staging buffer is shared. Each of those requests is left at its start, over the data that it was made
from, while the number of bytes that commands consume stays. So what is found there is not the download
but `overlaid data requests`. `Receipt.Agrees` ties the receipt to the state of the device, and
`Agrees.run` says that it does so after every run.
-/

namespace Fastboot

/-! ### Requests over the data they were made from -/

/-- What commands consume after so many requests: each one puts its mark in front and pushes as many
bytes out behind. -/
def overlaid (data : ByteArray) : Nat → ByteArray
  | 0 => data
  | requests + 1 => (Attestation.requestMark ++ overlaid data requests).extract 0 data.size

variable {data : ByteArray} {requests : Nat}

@[simp]
theorem size_overlaid (data : ByteArray) (requests : Nat) :
    (overlaid data requests).size = data.size := by
  induction requests with
  | zero => rfl
  | succ requests ih =>
    rw [overlaid, ByteArray.size_extract, ByteArray.size_append, ih]
    omega

theorem size_requestMark : Attestation.requestMark.size = 7 := by
  decide

/-- The mark over and over, byte by byte. -/
def markByte (i : Nat) : UInt8 :=
  have hi : i % 7 < Attestation.requestMark.size := size_requestMark ▸ Nat.mod_lt i (by decide)
  Attestation.requestMark[i % 7]

theorem markByte_sub {i n : Nat} (h : 7 * n ≤ i) : markByte (i - 7 * n) = markByte i := by
  obtain ⟨j, rfl⟩ := Nat.exists_eq_add_of_le h
  simp [markByte]

/-- Behind the marks the data goes on from its start. -/
theorem getElem_overlaid (data : ByteArray) (requests i : Nat)
    (hi : i < (overlaid data requests).size) (hi' : i - 7 * requests < data.size) :
    (overlaid data requests)[i] =
      if i < 7 * requests then markByte i else data[i - 7 * requests] := by
  induction requests generalizing i with
  | zero => simp [overlaid]
  | succ requests ih =>
    have hmark := size_requestMark
    rw [size_overlaid] at hi
    simp only [overlaid, ByteArray.getElem_extract, Nat.zero_add]
    rcases Nat.lt_or_ge i 7 with hlt | hge
    · rw [ByteArray.getElem_append_left (by omega), if_pos (by omega)]
      simp only [markByte, Nat.mod_eq_of_lt hlt]
    · obtain ⟨j, rfl⟩ := Nat.exists_eq_add_of_le hge
      have hbyte : markByte j = markByte (7 + j) := by simp [markByte]
      rw [ByteArray.getElem_append_right (by omega)]
      simp only [hmark, Nat.add_sub_cancel_left]
      rw [ih j (by rw [size_overlaid]; omega) (by omega), hbyte]
      have hiff : 7 + j < 7 * (requests + 1) ↔ j < 7 * requests := by omega
      have hsub : 7 + j - 7 * (requests + 1) = j - 7 * requests := by omega
      simp only [hiff, hsub]

/-- Requests leave the data as it is only if there were none, or if it is nothing but marks. -/
theorem overlaid_eq_iff : overlaid data requests = data ↔
    requests = 0 ∨ ∀ (i : Nat) (hi : i < data.size), data[i] = markByte i := by
  constructor
  · intro h
    refine or_iff_not_imp_left.mpr fun hne i => ?_
    -- a byte behind the marks is one further to the front
    induction i using Nat.strongRecOn with
    | ind i ih =>
      intro hi
      have hget := getElem_overlaid data requests i (by rw [size_overlaid]; exact hi) (by omega)
      simp only [h] at hget
      rw [hget]
      split
      · rfl
      · rename_i hge
        rw [ih (i - 7 * requests) (by omega) (by omega)]
        exact markByte_sub (Nat.le_of_not_lt hge)
  · rintro (rfl | hmarks)
    · rfl
    · refine ByteArray.ext_getElem (size_overlaid data requests) fun i hi hi' => ?_
      rw [getElem_overlaid data requests i hi (by omega)]
      split
      · exact (hmarks i hi').symm
      · rename_i hge
        rw [hmarks, hmarks]
        exact markByte_sub (Nat.le_of_not_lt hge)

/-! ### Receipts -/

/-- What can be told of the last download. -/
inductive Receipt where
  /-- Nothing that commands could be held to. -/
  | none
  /-- A download of `size` bytes is under way, and `got` has been received. -/
  | partly (size : Nat) (got : ByteArray)
  /-- The download of `data` was answered by an `OKAY`, and so were that many requests since. -/
  | whole (data : ByteArray) (requests : Nat)

namespace Receipt

open Device (Call Offer Action Taking Reception Progression)

instance : DecidableEq Receipt
  | none, none => isTrue rfl
  | partly m a, partly n b =>
    decidable_of_iff (m = n ∧ a.data = b.data) (by simp [ByteArray.ext_iff])
  | whole a m, whole b n =>
    decidable_of_iff (a.data = b.data ∧ m = n) (by simp [ByteArray.ext_iff])
  | none, partly .. | none, whole .. | partly .., none | partly .., whole .. | whole .., none
  | whole .., partly .. => isFalse nofun

/-- A request was made from the download, if there is one. -/
def request : Receipt → Receipt
  | whole data requests => whole data (requests + 1)
  | r => r

/-- The receipt once a download has been announced, with the frame that was offered for it. -/
def announced : Option Offer → Receipt
  | some (.reply ⟨.data size, _⟩) => partly size.toNat .empty
  | _ => none

/-- The receipt once a command has been answered. -/
def answered (r : Receipt) (command : String) (offer : Option Offer) : Receipt :=
  if Command.Verb.ofCommand? command = some .download then announced offer
  else if Command.AsksCa command ∧ offer = some (.reply .okay) then r.request
  else r

/-- The receipt once a transfer has been taken, with the frame that was offered for it. -/
def received (r : Receipt) (status : TransferStatus) (data : ByteArray) (offer : Option Offer) :
    Receipt :=
  match r, status with
  | partly _ _, .failed _ => none
  | partly size got, .completed =>
    if (got ++ data).size < size then partly size (got ++ data)
    else whole ((got ++ data).extract 0 size) 0
  | r, .failed _ => r
  | r, .completed =>
    match Device.commandText? data with
    | Option.none => r
    | some command => r.answered command offer

/-- The receipt after a call, with the frame that was offered in it. -/
def after (r : Receipt) (c : Call) (offer : Option Offer) : Receipt :=
  match c with
  | .enable | .disable => none
  | .received status data => r.received status data offer
  | .sent _ _ => r

/-- The receipt after a run of a device. -/
def track (r : Receipt) (d : Device) : List Action → Receipt
  | [] => r
  | .call c :: actions => (r.after c (d.offer? c)).track (d.call c) actions
  | .world usb board :: actions => r.track (d.act (.world usb board)) actions

/-- What a receipt says of the state of a device. -/
inductive Agrees (d : Device) : Receipt → Prop where
  | none (hmode : d.transfer.mode ≠ .downloading) : Agrees d none
  | partly (size : Nat) (got : ByteArray) (henabled : d.lifecycle = .enabled)
      (hmode : d.transfer.mode = .downloading) (hsize : d.transfer.downloadSize.toNat = size)
      (hbytes : d.transfer.downloadBytes.toNat = got.size) (hgot : d.staging.StartsWith got) :
      Agrees d (partly size got)
  | whole (data : ByteArray) (requests : Nat) (hmode : d.transfer.mode ≠ .downloading)
      (hbytes : d.transfer.downloadBytes.toNat = data.size)
      (hdata : d.staging.StartsWith (overlaid data requests)) :
      Agrees d (whole data requests)

variable {r : Receipt} {d d' : Device} {c : Call} {offer : Option Offer} {data : ByteArray}
  {status : TransferStatus} {actual : Nat}

/-- A receipt for a download that is not under way survives all that leaves its data alone. -/
theorem Agrees.congr (h : Agrees d r) (hmode : d.transfer.mode ≠ .downloading)
    (hmode' : d'.transfer.mode ≠ .downloading)
    (hbytes : d'.transfer.downloadBytes = d.transfer.downloadBytes)
    (hstaging : d'.staging = d.staging) : Agrees d' r := by
  cases h with
  | none => exact .none hmode'
  | partly _ _ _ h => exact absurd h hmode
  | whole data requests _ hsize hdata =>
    exact .whole data requests hmode' (hbytes ▸ hsize) (hstaging ▸ hdata)

/-- Nothing but the mode, the counters of the download, the staging buffer and the lifecycle has a part
in it. -/
theorem Agrees.of_eq (h : Agrees d r)
    (hmode : d'.transfer.mode = .downloading ↔ d.transfer.mode = .downloading)
    (hsize : d'.transfer.downloadSize = d.transfer.downloadSize)
    (hbytes : d'.transfer.downloadBytes = d.transfer.downloadBytes)
    (hstaging : d'.staging = d.staging) (hlifecycle : d'.lifecycle = d.lifecycle) :
    Agrees d' r := by
  cases h with
  | none hidle => exact .none (mt hmode.mp hidle)
  | partly size got henabled hdown hcount hgot hdata =>
    exact .partly size got (hlifecycle.trans henabled) (hmode.mpr hdown) (hsize ▸ hcount)
      (hbytes ▸ hgot) (hstaging ▸ hdata)
  | whole data requests hidle hcount hdata =>
    exact .whole data requests (mt hmode.mp hidle) (hbytes ▸ hcount) (hstaging ▸ hdata)

/-- Outside a download the receipt is not for one. -/
theorem Agrees.received_eq (h : Agrees d r) (hmode : d.transfer.mode ≠ .downloading) :
    r.received .completed data offer = match Device.commandText? data with
      | Option.none => r
      | some command => r.answered command offer := by
  cases h with
  | partly _ _ _ h => exact absurd h hmode
  | _ => rfl

/-- A transfer outside a download that is answered neither by `DATA` nor by `OKAY`, or not at all. -/
theorem Agrees.received_of_ne (h : Agrees d r) (hmode : d.transfer.mode ≠ .downloading)
    (hmode' : d'.transfer.mode ≠ .downloading)
    (hbytes : d'.transfer.downloadBytes = d.transfer.downloadBytes)
    (hstaging : d'.staging = d.staging)
    (hdata : ∀ size next, offer ≠ some (.reply ⟨.data size, next⟩))
    (hokay : offer ≠ some (.reply .okay)) : Agrees d' (r.received status data offer) := by
  have hsame := h.congr hmode hmode' hbytes hstaging
  cases status with
  | failed code =>
    cases h with
    | partly _ _ _ hdown => exact absurd hdown hmode
    | _ => exact hsame
  | completed =>
    rw [h.received_eq hmode]
    split
    · exact hsame
    · unfold Receipt.answered announced
      split
      · split
        · exact absurd rfl (hdata _ _)
        · exact .none hmode'
      · rw [if_neg fun hca => hokay hca.2]
        exact hsame

/-- What is found in place of the last download by a command. -/
theorem Agrees.downloaded_eq {requests : Nat} (h : Agrees d (.whole data requests))
    (transfer : Transfer) (hbytes : transfer.downloadBytes = d.transfer.downloadBytes)
    (events : Array Event) :
    Target.downloaded { d.toTarget with transfer, events } = .ok (overlaid data requests) := by
  cases h with
  | whole _ _ _ hcount hdata =>
    rw [Buffer.StartsWith, size_overlaid, ← hcount, ← hbytes] at hdata
    exact Command.mapError_eq_ok_iff.mpr hdata

theorem answered_of_ne {command : String} (hverb : Command.Verb.ofCommand? command ≠ some .download)
    (hca : Command.AsksCa command → offer ≠ some (.reply .okay)) :
    r.answered command offer = r := by
  rw [answered, if_neg hverb, if_neg fun h => hca h.1 h.2]

/-- A verb other than `oem` does not ask for a request. -/
theorem not_asksCa {command : String} {verb : Command.Verb}
    (hverb : Command.Verb.ofCommand? command = some verb) (hne : verb ≠ .oem) :
    ¬ Command.AsksCa command :=
  fun h => hne (Option.some.inj (hverb.symm.trans h.1))

/-- Commands keep the receipt true. -/
theorem Agrees.answered (h : Agrees d r) (henabled : d.lifecycle = .enabled)
    (hmode : d.transfer.mode ≠ .downloading) {command : String} {reply : Reply} {target : Target}
    {events : Array Event} {inbound : Option Buffer}
    (houtcome : Command.Outcome command
      { d.toTarget with transfer := d.transfer.interrupted, events } reply target) :
    Agrees { d with toTarget := target, inbound } (r.answered command (some (.reply reply))) := by
  have hidle : d.transfer.interrupted.mode ≠ .downloading := by
    simp [Transfer.mode_interrupted hmode]
  have hbytes := d.transfer.downloadBytes_interrupted
  cases houtcome with
  | answer response _ _ hverb hca =>
    rw [answered_of_ne hverb fun hasks hoffer => ?_]
    · exact h.congr hmode hidle hbytes rfl
    · have hokay := hca hasks
      cases hoffer
      cases hokay
  | exit verb action _ hverb haction =>
    have hne : verb ≠ .download ∧ verb ≠ .oem := by
      constructor <;> rintro rfl <;> cases haction
    rw [answered_of_ne (by simpa [hverb] using hne.1) fun hasks =>
      absurd hasks (not_asksCa hverb hne.2)]
    exact h.congr hmode hidle hbytes rfl
  | refuse fault downloadSize hverb =>
    rw [Receipt.answered, if_pos hverb]
    exact .none hidle
  | download size hverb hpos hle =>
    rw [Receipt.answered, if_pos hverb]
    exact .partly _ _ henabled (by simp) (by simp) (by simp [Command.dropData])
      Buffer.startsWith_empty
  | upload hverb =>
    rw [answered_of_ne (by simp [hverb]) fun hasks => absurd hasks (not_asksCa hverb (by decide))]
    exact h.congr hmode (by simp) (by simp) (by simp)
  | request operation staging hca hoperation hsize hstaging =>
    rw [Receipt.answered, if_neg (by simp [hca.1]), if_pos ⟨hca, rfl⟩]
    cases h with
    | none => exact .none hidle
    | partly _ _ _ hdown => exact absurd hdown hmode
    | whole data requests _ hcount hdata =>
      -- what the request was made from is what the receipt says
      have hfound := (Agrees.whole data requests hmode hcount hdata).downloaded_eq _ hbytes events
      obtain rfl : overlaid data requests = operation :=
        Except.ok.inj (hfound.symm.trans hoperation)
      exact .whole data (requests + 1) hidle (hbytes ▸ hcount)
        ((Buffer.startsWith_of_writeAt_zero hstaging).extract data.size)

/-- Taking a transfer keeps the receipt true. -/
theorem Agrees.of_reception (h : Agrees d r) (hs : d.Sound .none) (henabled : d.lifecycle = .enabled)
    (hr : Reception d data status d' offer) : Agrees d' (r.received status data offer) := by
  cases hr with
  | lost code hmode => exact h.received_of_ne hmode hmode rfl rfl nofun nofun
  | refused fault inbound events hmode hinbound htext =>
    exact h.received_of_ne hmode (by simp [Transfer.mode_interrupted hmode])
      d.transfer.downloadBytes_interrupted rfl nofun nofun
  | command text reply target events hmode hsize htext hrun =>
    have houtcome := Command.outcome_dispatch text
      { d.toTarget with transfer := d.transfer.interrupted, events }
    rw [hrun] at houtcome
    rw [h.received_eq hmode, htext]
    exact h.answered henabled hmode houtcome
  | broken code events hmode =>
    cases h with
    | partly => exact .none nofun
    | none hne => exact absurd hmode hne
    | whole _ _ hne => exact absurd hmode hne
  | partly staging events hmode hstaging hlt =>
    cases h with
    | none hne => exact absurd hmode hne
    | whole _ _ hne => exact absurd hmode hne
    | partly size got _ _ hsize hbytes hgot =>
      rw [hbytes] at hstaging hlt
      have hle : d.transfer.downloadBytes.toNat + data.size ≤ d.transfer.downloadSize.toNat := by
        omega
      have hstored := hs.consistent.toNat_stored hs.valid.stagingCapacity_lt hmode hle
      have hmore : (got ++ data).size < size := by
        rw [ByteArray.size_append]
        omega
      rw [received, if_pos hmore]
      refine .partly size (got ++ data) henabled hmode hsize ?_ (hgot.writeAt_size hstaging)
      rw [ByteArray.size_append, ← hbytes]
      exact hstored
  | last count staging events hmode hcount hstaging hfull =>
    cases h with
    | none hne => exact absurd hmode hne
    | whole _ _ hne => exact absurd hmode hne
    | partly size got _ _ hsize hbytes hgot =>
      rw [hbytes] at hstaging hfull
      have hle : d.transfer.downloadBytes.toNat + count ≤ d.transfer.downloadSize.toNat := by omega
      have hstored := hs.consistent.toNat_stored hs.valid.stagingCapacity_lt hmode hle
      have henough : ¬ (got ++ data).size < size := by
        rw [ByteArray.size_append]
        omega
      -- the receipt cuts the last chunk where the device does
      obtain rfl : size = got.size + count := hsize.symm.trans hfull.symm
      rw [received, if_neg henough, Buffer.extract_append_add]
      refine .whole _ 0 nofun ?_ (hgot.writeAt_size hstaging)
      rw [ByteArray.size_append, ByteArray.size_extract, Nat.min_eq_left hcount, Nat.sub_zero,
        ← hbytes]
      exact hstored

/-- Going on keeps the receipt true. -/
theorem Agrees.of_progression (h : Agrees d r) (hs : d.Sound .none)
    (hp : Progression d actual status d' offer) : Agrees d' r := by
  cases hp with
  | stop => exact h.of_eq .rfl rfl rfl rfl rfl
  | broken code events hnext =>
    exact h.congr (by simp [hs.mode_eq hnext]) nofun rfl rfl
  | chunk data events hnext =>
    have hmode := hs.mode_eq hnext
    exact h.congr (by simp [hmode]) (by simp [Transfer.settled, hmode])
      (Transfer.downloadBytes_fetched _ _) rfl
  | last events hnext =>
    exact h.congr (by simp [hs.mode_eq hnext]) nofun (Transfer.downloadBytes_fetched _ _) rfl
  | exit action hnext =>
    have hmode := hs.idle_eq action hnext
    have hmode' : (d.settle.runExit action).transfer.mode = .idle := hmode
    exact h.congr (by simp [hmode]) (by simp [hmode']) rfl rfl

/-- A call keeps the receipt true, up to the frame that is handed over. -/
theorem Agrees.of_taking (h : Agrees d r) (hs : d.Sound .none) (ht : Taking d c d' offer) :
    Agrees d' (r.after c offer) := by
  cases ht with
  | restart _ _ _ _ _ hcall =>
    rcases hcall with rfl | rfl
    · exact .none nofun
    · exact .none nofun
  | received henabled hr => exact h.of_reception hs henabled hr
  | sent _ hp => exact h.of_progression hs hp
  | ignored _ hlifecycle =>
    have hmode : d.transfer.mode ≠ .downloading := by
      cases h with
      | partly _ _ henabled => exact absurd henabled hlifecycle
      | none hidle => exact hidle
      | whole _ _ hidle => exact hidle
    cases c with
    | enable => exact .none hmode
    | disable => exact .none hmode
    | received => exact h.received_of_ne hmode hmode rfl rfl nofun nofun
    | sent => exact h

/-- Each action keeps the receipt true. -/
theorem Agrees.call (h : Agrees d r) (hs : d.Sound .none) (c : Call) :
    Agrees (d.call c) (r.after c (d.offer? c)) := by
  have ht := Device.taking_take hs c
  obtain ⟨usb, requested, hcall⟩ := d.call_eq c
  rw [hcall]
  exact (h.of_taking hs ht).of_eq ((hs.of_taking ht).mode_hand_iff) (by simp) (by simp) (by simp)
    (by simp)

/-- **The receipt is true.** After every run it agrees with the state of the device. -/
theorem Agrees.run (h : Agrees d r) (hs : d.Sound .none) (actions : List Action) :
    Agrees (d.run actions) (r.track d actions) := by
  induction actions generalizing d r with
  | nil => exact h
  | cons a actions ih =>
    cases a with
    | call c => exact ih (h.call hs c) (hs.call c)
    | world usb board => exact ih (h.of_eq .rfl rfl rfl rfl rfl) (hs.act _)

end Receipt

end Fastboot
