import Fastboot.Proofs.Command.Announce

/-!
# The limit of downloads

A device names the largest download that it takes in the variable `max-download-size`, and decides on a
download when it is announced. The two have nothing in common but the capacity of the staging buffer: the one
prints it, the other compares it with a number that was read from the command.

* `dispatch_maxDownloadSize`: what is printed is a mark and eight digits, and reads back as the capacity.
* `dispatch_download_cases`: a download is announced, refused as invalid or refused as too large.
* `judged_download`: each of the three answers is given for its sizes and for no others, whatever the argument
  (`Judged`). Within the limit every size is announced as it was read, although sizes are read in 64 bits and
  announced in 32.
-/

namespace Fastboot

namespace Command

open Text

variable {t : Target} {s : Transfer} {limit : Nat} {argument : String}

/-! ### What is advertised -/

/-- **The limit that is advertised** is the capacity of the staging buffer, in eight digits. -/
theorem dispatch_maxDownloadSize (hlt : t.staging.capacity < UInt32.size) :
    dispatch "getvar:max-download-size" t = (⟨.okay ("0x" ++ hex 8 t.staging.capacity), .done⟩, t) ∧
      (hex 8 t.staging.capacity).length = 8 ∧
      (∀ c ∈ (hex 8 t.staging.capacity).toList, isHexDigit c = true) ∧
      parseSize? ("0x" ++ hex 8 t.staging.capacity) = some t.staging.capacity := by
  have hlength : (hex 8 t.staging.capacity).toList.length = 8 :=
    length_toList_hex (by decide) (Nat.lt_of_lt_of_le hlt (by decide))
  have hvalue : (Variable.ofName "max-download-size").value t =
      .ok ("0x" ++ hex 8 t.staging.capacity) := rfl
  -- the value takes ten bytes of the frame, and the tag four
  have hfits : (Response.okay ("0x" ++ hex 8 t.staging.capacity)).text.utf8ByteSize ≤
      Frame.capacity := by
    rw [Response.text, Response.body, String.utf8ByteSize_append, String.utf8ByteSize_append,
      utf8ByteSize_hex, hlength, Response.utf8ByteSize_tag]
    decide
  have hframe : (Response.okay ("0x" ++ hex 8 t.staging.capacity)).frame = .ok ⟨_, hfits⟩ :=
    Response.frame_eq_ok_iff.mpr rfl
  have hgetvar : getvar "getvar:max-download-size" t =
      .ok (⟨.okay ("0x" ++ hex 8 t.staging.capacity), .done⟩, t) := by
    refine bind_eq_ok_iff.mpr ⟨"max-download-size", rfl, ?_⟩
    refine bind_eq_ok_iff.mpr ⟨_, hvalue, ?_⟩
    exact bind_eq_ok_iff.mpr ⟨_, mapError_eq_ok_iff.mpr hframe, rfl⟩
  have hverb : Verb.ofCommand? "getvar:max-download-size" = some .getvar := by decide
  refine ⟨?_, hlength, fun c hc => isHexDigit_of_mem_hex hc, ?_⟩
  · simp only [dispatch, hverb, execute, Target.attempt, hgetvar, replyOf]
  · exact parseSize?_marked 8 (Nat.lt_trans hlt (by decide))

/-! ### What is enforced -/

/-- **The three answers to a download.** Whichever it is, the data of the last one is given up. -/
theorem dispatch_download_cases (argument : String) (t : Target) :
    (parseSize? argument = some 0 ∧
        dispatch ("download:" ++ argument) t = (.ofFault .invalidSize, dropData t)) ∨
      (∃ n, parseSize? argument = some n ∧ 1 ≤ n ∧ n ≤ t.staging.capacity ∧
        dispatch ("download:" ++ argument) t = (⟨.data (.ofNat n), .done⟩,
          (dropData t).transition fun s =>
            { s with downloadSize := .ofNat n, mode := .downloading })) ∨
      ((∀ n, parseSize? argument = some n → t.staging.capacity < n) ∧
        dispatch ("download:" ++ argument) t = (.ofFault .tooLarge,
          { dropData t with transfer := { (dropData t).transfer with downloadSize := 0 } })) := by
  simp only [dispatch, ofCommand?_download, execute, download, announcedSize?_download]
  cases hsize : parseSize? argument with
  | none =>
    refine .inr (.inr ⟨fun n hn => ?_, rfl⟩)
    cases hn
  | some n =>
    rcases Nat.eq_zero_or_pos n with rfl | hpos
    · exact .inl ⟨rfl, rfl⟩
    · have hne : ¬ some n = some 0 := fun h => Nat.ne_of_gt hpos (Option.some.inj h)
      rw [if_neg hne]
      rcases Nat.lt_or_ge t.staging.capacity n with hlt | hle
      · have hfilter : (some n).filter (· ≤ (dropData t).staging.capacity) = none :=
          if_neg fun h => Nat.not_lt_of_le (of_decide_eq_true h) hlt
        rw [hfilter]
        refine .inr (.inr ⟨fun m hm => ?_, rfl⟩)
        rwa [← Option.some.inj hm]
      · have hfilter : (some n).filter (· ≤ (dropData t).staging.capacity) = some n :=
          if_pos (decide_eq_true hle)
        rw [hfilter]
        exact .inr (.inl ⟨n, rfl, hpos, hle, rfl⟩)

/-- What comes of a download with that argument, over a staging buffer that takes `limit` bytes: the response,
and the exchange behind it. -/
structure Judged (limit : Nat) (argument : String) (response : Response) (t : Transfer) : Prop where
  /-- Sizes from one byte up to the limit are announced, just as they were read. -/
  announced_iff (n : Nat) : (∃ size : UInt32, response = .data size ∧ size.toNat = n) ↔
    parseSize? argument = some n ∧ 1 ≤ n ∧ n ≤ limit
  downloading_iff (n : Nat) : (t.mode = .downloading ∧ t.downloadSize.toNat = n) ↔
    parseSize? argument = some n ∧ 1 ≤ n ∧ n ≤ limit
  invalid_iff : response = .fail "data invalid size" ↔ parseSize? argument = some 0
  tooLarge_iff : response = .fail "data too large" ↔ parseSize? argument ≠ some 0 ∧
    ¬ ∃ n, parseSize? argument = some n ∧ 1 ≤ n ∧ n ≤ limit
  /-- A size is not read at all if it does not fit in 64 bits. -/
  overflow (hvalue : UInt64.size ≤ hexValue (sizeDigits argument)) :
    parseSize? argument = none ∧ response = .fail "data too large"

/-- The two refusals are told apart. -/
theorem invalidSize_ne_tooLarge :
    (Reply.ofFault .invalidSize).response ≠ (Reply.ofFault .tooLarge).response := by
  decide

theorem judged_of_zero (hzero : parseSize? argument = some 0) (hmode : s.mode ≠ .downloading) :
    Judged limit argument (Reply.ofFault .invalidSize).response s := by
  have hnot : ∀ m, ¬ (parseSize? argument = some m ∧ 1 ≤ m ∧ m ≤ limit) := by
    rintro m ⟨hm, hpos, -⟩
    have hsame := Option.some.inj (hzero.symm.trans hm)
    omega
  exact {
    announced_iff := fun m => iff_of_false (fun ⟨_, hdata, _⟩ => nomatch hdata) (hnot m)
    downloading_iff := fun m => iff_of_false (fun h => hmode h.1) (hnot m)
    invalid_iff := iff_of_true rfl hzero
    tooLarge_iff := iff_of_false invalidSize_ne_tooLarge fun h => h.1 hzero
    overflow := fun hvalue =>
      absurd (hzero.symm.trans (parseSize?_eq_none_iff.mpr hvalue)) nofun }

/-- A size within the limit is not changed by the conversion to 32 bits. -/
theorem judged_of_le {n : Nat} (hn : parseSize? argument = some n) (hpos : 1 ≤ n) (hle : n ≤ limit)
    (hlt : limit < UInt32.size) (hmode : s.mode = .downloading) (hsize : s.downloadSize = .ofNat n) :
    Judged limit argument (.data (.ofNat n)) s := by
  have hword : (UInt32.ofNat n).toNat = n :=
    UInt32.toNat_ofNat_of_lt' (Nat.lt_of_le_of_lt hle hlt)
  have hsame : ∀ m, parseSize? argument = some m ∧ 1 ≤ m ∧ m ≤ limit ↔ n = m := by
    intro m
    rw [hn]
    constructor
    · rintro ⟨hm, -, -⟩
      exact Option.some.inj hm
    · rintro rfl
      exact ⟨rfl, hpos, hle⟩
  refine {
    announced_iff := fun m => ?_
    downloading_iff := fun m => ?_
    invalid_iff := iff_of_false nofun fun hzero => ?_
    tooLarge_iff := iff_of_false nofun fun h => h.2 ⟨n, hn, hpos, hle⟩
    overflow := fun hvalue => absurd (hn.symm.trans (parseSize?_eq_none_iff.mpr hvalue)) nofun }
  · rw [hsame]
    constructor
    · rintro ⟨size, hdata, rfl⟩
      rw [← Response.data.inj hdata, hword]
    · rintro rfl
      exact ⟨_, rfl, hword⟩
  · rw [hsame, hsize, hword]
    exact and_iff_right hmode
  · have hnone := Option.some.inj (hn.symm.trans hzero)
    omega

theorem judged_of_gt (hover : ∀ n, parseSize? argument = some n → limit < n)
    (hmode : s.mode ≠ .downloading) :
    Judged limit argument (Reply.ofFault .tooLarge).response s := by
  have hnot : ∀ m, ¬ (parseSize? argument = some m ∧ 1 ≤ m ∧ m ≤ limit) := by
    rintro m ⟨hm, -, hle⟩
    exact absurd (hover m hm) (Nat.not_lt_of_le hle)
  have hnonzero : parseSize? argument ≠ some 0 := fun hzero => Nat.not_lt_zero _ (hover 0 hzero)
  exact {
    announced_iff := fun m => iff_of_false (fun ⟨_, hdata, _⟩ => nomatch hdata) (hnot m)
    downloading_iff := fun m => iff_of_false (fun h => hmode h.1) (hnot m)
    invalid_iff := iff_of_false invalidSize_ne_tooLarge.symm hnonzero
    tooLarge_iff := iff_of_true rfl ⟨hnonzero, fun ⟨m, hm⟩ => hnot m hm⟩
    overflow := fun hvalue => ⟨parseSize?_eq_none_iff.mpr hvalue, rfl⟩ }

/-- **The limit that is enforced** is the capacity of the staging buffer, for every argument. -/
theorem judged_download (hmode : t.transfer.mode ≠ .downloading)
    (hlt : t.staging.capacity < UInt32.size) (argument : String) :
    Judged t.staging.capacity argument (dispatch ("download:" ++ argument) t).1.response
      (dispatch ("download:" ++ argument) t).2.transfer := by
  rcases dispatch_download_cases argument t with
    ⟨hzero, hrun⟩ | ⟨n, hn, hpos, hle, hrun⟩ | ⟨hover, hrun⟩
  · rw [hrun]
    exact judged_of_zero hzero hmode
  · rw [hrun, Target.transfer_transition]
    exact judged_of_le hn hpos hle hlt rfl rfl
  · rw [hrun]
    exact judged_of_gt hover hmode

/-- None of the three answers is too long for a frame. -/
theorem utf8ByteSize_download_le (argument : String) (t : Target) :
    (dispatch ("download:" ++ argument) t).1.response.text.utf8ByteSize ≤ Frame.capacity := by
  have hinvalid : (Reply.ofFault .invalidSize).response.text.utf8ByteSize ≤ Frame.capacity := by
    decide
  have htooLarge : (Reply.ofFault .tooLarge).response.text.utf8ByteSize ≤ Frame.capacity := by
    decide
  rcases dispatch_download_cases argument t with ⟨-, hrun⟩ | ⟨n, -, -, -, hrun⟩ | ⟨-, hrun⟩
  · rw [hrun]
    exact hinvalid
  · rw [hrun]
    exact Response.utf8ByteSize_text_data _
  · rw [hrun]
    exact htooLarge

end Command

end Fastboot
