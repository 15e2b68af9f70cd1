import Fastboot.Host
import Fastboot.Proofs.Command.Outcome
import Fastboot.Proofs.Command.Size
import Fastboot.Proofs.Response

/-!
# The commands of a data phase

What `Command.dispatch` makes of the two commands that the host sends for a data phase. A host announces
a size the way a device reads it (`announcedSize?_downloadCommand`), so a download that fits is accepted
with the size that was meant (`dispatch_downloadCommand`). It has no answer but that and a refusal
(`Outcome.of_download`). An upload is accepted if there is something to send (`dispatch_upload`).
-/

namespace Fastboot

namespace Text

/-- A text is cut at the first colon, or any other character. -/
theorem cut_append {c : Char} {front : String} (hc : c ∉ front.toList) (back : String) :
    cut c (front ++ (String.singleton c ++ back)) = (front, some back) := by
  have hfront : ∀ d ∈ front.toList, (d != c) = true := fun d hd =>
    bne_iff_ne.mpr fun h => hc (h ▸ hd)
  have htake : (front.toList ++ c :: back.toList).takeWhile (· != c) = front.toList := by
    rw [List.takeWhile_append_of_pos hfront, List.takeWhile_cons_of_neg (by simp),
      List.append_nil]
  have hdrop : (front.toList ++ c :: back.toList).dropWhile (· != c) = c :: back.toList := by
    rw [List.dropWhile_append_of_pos hfront, List.dropWhile_cons_of_neg (by simp)]
  have hlist : (front ++ (String.singleton c ++ back)).toList =
      front.toList ++ c :: back.toList := by
    simp
  simp only [cut, hlist, htake, hdrop, String.ofList_toList]

/-- A text that is cut is put together again. -/
theorem eq_append_of_cut {c : Char} {s front back : String} (h : cut c s = (front, some back)) :
    s = front ++ (String.singleton c ++ back) := by
  obtain ⟨hfront, hback⟩ := Prod.mk.inj h
  have hlist := List.takeWhile_append_dropWhile (p := (· != c)) (l := s.toList)
  split at hback
  · cases hback
  · rename_i d rest hrest
    have hcut : d = c := by
      have hd := List.head?_dropWhile_not (· != c) s.toList
      rw [hrest] at hd
      simpa using hd
    cases hback
    rw [← String.toList_inj, ← hlist, hrest, ← hfront, hcut]
    simp

/-- What stands in front is all of the text, or what stands before the first `c`. -/
theorem cut_fst_eq_iff {c : Char} {s front : String} (hc : c ∉ front.toList) :
    (cut c s).1 = front ↔ s = front ∨ ∃ back, s = front ++ (String.singleton c ++ back) := by
  constructor
  · intro hfront
    cases hback : (cut c s).2 with
    | some back => exact .inr ⟨back, eq_append_of_cut (Prod.ext hfront hback)⟩
    | none =>
      have hdrop : s.toList.dropWhile (· != c) = [] := by
        simp only [cut] at hback
        split at hback
        · assumption
        · cases hback
      have hlist := List.takeWhile_append_dropWhile (p := (· != c)) (l := s.toList)
      rw [hdrop, List.append_nil] at hlist
      left
      rw [← hfront, cut, hlist, String.ofList_toList]
  · rintro (rfl | ⟨back, rfl⟩)
    · have htake : s.toList.takeWhile (· != c) = s.toList :=
        List.takeWhile_eq_self_iff.mpr fun d hd => bne_iff_ne.mpr fun h => hc (h ▸ hd)
      rw [cut, htake, String.ofList_toList]
    · rw [cut_append hc]

end Text

namespace Command

open Text

theorem ofCommand?_download (argument : String) :
    Verb.ofCommand? ("download:" ++ argument) = some .download := by
  simp [Verb.ofCommand?, leading?, Verb.table, isSome_after?, List.isPrefixOf_cons_cons]

/-- The size is read from all that stands behind the first colon. -/
theorem announcedSize?_download (argument : String) :
    announcedSize? ("download:" ++ argument) = parseSize? argument := by
  have hcommand : "download:" ++ argument = "download" ++ (String.singleton ':' ++ argument) := by
    rw [← String.append_assoc]
    rfl
  have hcut : splitArgument ("download:" ++ argument) = ("download", some argument) := by
    rw [hcommand]
    exact cut_append (by decide) _
  simp only [announcedSize?, hcut]

variable (size : UInt32)

theorem ofCommand?_downloadCommand :
    Verb.ofCommand? (Host.downloadCommand size) = some .download :=
  ofCommand?_download _

/-- A host and a device agree on the size of a download. -/
theorem announcedSize?_downloadCommand :
    announcedSize? (Host.downloadCommand size) = some size.toNat := by
  have hsize : size.toNat < UInt64.size := Nat.lt_trans (UInt32.toNat_lt size) (by decide)
  exact (announcedSize?_download _).trans (parseSize?_hex 8 hsize)

/-- The command is text without a zero, and fits the smallest buffer. -/
theorem downloadCommand_plain :
    '\x00' ∉ (Host.downloadCommand size).toList ∧
      (Host.downloadCommand size).utf8ByteSize = 17 := by
  constructor
  · rw [Host.downloadCommand, String.toList_append]
    intro hmem
    rcases List.mem_append.mp hmem with hverb | hdigit
    · exact absurd hverb (by decide)
    · have hzero : isHexDigit '\x00' = true := isHexDigit_of_mem_hex hdigit
      cases hzero
  · rw [Host.downloadCommand, String.utf8ByteSize_append, Response.utf8ByteSize_hex_size]
    rfl

/-- **A download that fits is accepted.** Whatever was there before is given up. -/
theorem dispatch_downloadCommand {size : UInt32} {t : Target} (hpos : size ≠ 0)
    (hfits : size.toNat ≤ t.staging.capacity) :
    dispatch (Host.downloadCommand size) t = (⟨.data size, .done⟩,
      (dropData t).transition fun s => { s with downloadSize := size, mode := .downloading }) := by
  have hnonzero : size.toNat ≠ 0 := fun h => hpos (UInt32.toNat_inj.mp h)
  have hfilter : (some size.toNat).filter (· ≤ (dropData t).staging.capacity) =
      some size.toNat := by
    exact if_pos (decide_eq_true hfits)
  simp only [dispatch, ofCommand?_downloadCommand, execute, download,
    announcedSize?_downloadCommand, hfilter, UInt32.ofNat_toNat, replyOf]
  rw [if_neg fun h => hnonzero (Option.some.inj h)]

/-- A download is refused, or announced if it fits. -/
theorem Outcome.of_download {command : String} {t t' : Target} {reply : Reply}
    (h : Outcome command t reply t')
    (hverb : Verb.ofCommand? command = some .download) :
    (∃ fault, reply = .ofFault fault) ∨
      ∃ n, reply = ⟨.data (.ofNat n), .done⟩ ∧ 0 < n ∧ n ≤ t.staging.capacity := by
  cases h with
  | answer _ _ _ hother => exact absurd hverb hother
  | exit verb action _ hother haction =>
    obtain rfl := Option.some.inj (hother.symm.trans hverb)
    cases haction
  | refuse fault => exact .inl ⟨fault, rfl⟩
  | download n _ hpos hle => exact .inr ⟨n, rfl, hpos, hle⟩
  | upload hother => exact absurd (hother.symm.trans hverb) nofun
  | request _ _ hca => exact absurd (hca.1.symm.trans hverb) nofun

/-- An upload is accepted if there is something to send. -/
theorem dispatch_upload {t : Target} (hsize : t.transfer.uploadSize ≠ 0) :
    dispatch "upload" t = (⟨.data t.transfer.uploadSize, .uploadChunk⟩,
      t.transition fun s => { s with startUpload := false, uploadBytes := 0, mode := .uploading }) := by
  have hverb : Verb.ofCommand? "upload" = some .upload := by decide
  simp only [dispatch, hverb, execute, upload, if_neg hsize, Target.attempt, replyOf]

end Command

end Fastboot
