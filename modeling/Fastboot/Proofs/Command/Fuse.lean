import Fastboot.Proofs.Command.Deed

/-!
# Commands and the fuses

Two vendor commands burn something in: the permanent attributes, which come with the digest that stands
behind them, and the digest of the key. Both take the data of the last download, which has to be there to
the last byte. `burns_dispatch` says that this is all that happens to the fuses, whatever the command is,
in terms of its answer.
-/

namespace Fastboot

/-- What is burnt in by one command. -/
inductive Fuse where
  /-- The permanent attributes, their digest, and the mark that they are there. -/
  | attributes
  /-- The digest of the key. -/
  | key
  deriving DecidableEq, Repr

namespace Lock

/-- The second lock has the same burnt in as the first. -/
def Agrees (l l' : Lock) : Fuse → Prop
  | .attributes => l'.attributes = l.attributes ∧ l'.attributeHash = l.attributeHash ∧
      l'.provisioned = l.provisioned
  | .key => l'.keyHash = l.keyHash

/-- What is burnt in is a payload, to the last byte, or nothing at all. -/
inductive Holds (l : Lock) : Fuse → Option ByteArray → Prop where
  | noAttributes (hattributes : l.attributes = none) (hdigest : l.attributeHash = none)
      (hmark : l.provisioned = false) : Holds l .attributes none
  | attributes {attributes digest : ByteArray} (hattributes : l.attributes = some attributes)
      (hdigest : l.attributeHash = some digest) (hmark : l.provisioned = true)
      (hsize : attributes.size = Command.attributesSize)
      (hdigestSize : digest.size = Command.attributesDigestSize) :
      Holds l .attributes (some (attributes ++ digest))
  | noKey (hkey : l.keyHash = none) : Holds l .key none
  | key {digest : ByteArray} (hkey : l.keyHash = some digest)
      (hsize : digest.size = Command.keyHashSize) : Holds l .key (some digest)

/-- `l'` is `l` with something burnt in, or nothing: `burnt` has the payload for each of the fuses. -/
structure Burns (burnt : Fuse → Option ByteArray) (l l' : Lock) : Prop where
  agrees {fuse : Fuse} : burnt fuse = none → l.Agrees l' fuse
  holds {fuse : Fuse} {payload : ByteArray} : burnt fuse = some payload →
    l'.Holds fuse (some payload)

variable {l l' : Lock} {fuse : Fuse} {payload : Option ByteArray} {burnt : Fuse → Option ByteArray}

theorem agrees_refl (l : Lock) (fuse : Fuse) : l.Agrees l fuse := by
  cases fuse with
  | attributes => exact ⟨rfl, rfl, rfl⟩
  | key => rfl

theorem Holds.of_agrees (h : l.Holds fuse payload) (hsame : l.Agrees l' fuse) :
    l'.Holds fuse payload := by
  cases h with
  | noAttributes hattributes hdigest hmark =>
    obtain ⟨hattributes', hdigest', hmark'⟩ := hsame
    exact .noAttributes (hattributes'.trans hattributes) (hdigest'.trans hdigest)
      (hmark'.trans hmark)
  | attributes hattributes hdigest hmark hsize hdigestSize =>
    obtain ⟨hattributes', hdigest', hmark'⟩ := hsame
    exact .attributes (hattributes'.trans hattributes) (hdigest'.trans hdigest)
      (hmark'.trans hmark) hsize hdigestSize
  | noKey hkey => exact .noKey (Eq.trans hsame hkey)
  | key hkey hsize => exact .key (Eq.trans hsame hkey) hsize

/-- What was burnt in last is what is there. -/
theorem Burns.holds_or (h : Burns burnt l l') (hbefore : l.Holds fuse payload) :
    l'.Holds fuse ((burnt fuse).or payload) := by
  cases hburnt : burnt fuse with
  | none => exact hbefore.of_agrees (h.agrees hburnt)
  | some new => exact h.holds hburnt

theorem burns_none (h : ∀ fuse, l.Agrees l' fuse) : l.Burns (fun _ => none) l' :=
  ⟨fun _ => h _, nofun⟩

/-- A payload is burnt in, and nothing else is. -/
theorem burns_of_holds {new : ByteArray} (hholds : l'.Holds fuse (some new))
    (hothers : ∀ other ≠ fuse, l.Agrees l' other) :
    l.Burns (fun other => if other = fuse then some new else none) l' where
  agrees {other} hnone := by
    by_cases hother : other = fuse
    · rw [if_pos hother] at hnone
      cases hnone
    · exact hothers other hother
  holds {other} payload hsome := by
    by_cases hother : other = fuse
    · rw [if_pos hother] at hsome
      cases hsome
      exact hother ▸ hholds
    · rw [if_neg hother] at hsome
      cases hsome

/-- The permanent attributes are burnt in together with what stands behind them. -/
theorem holds_attributes (l : Lock) {new : ByteArray}
    (hsize : new.size = Command.attributesSize + Command.attributesDigestSize) :
    ((l.writeAttributes (new.extract 0 Command.attributesSize)).writeAttributeHash
      (new.extract Command.attributesSize new.size)).setProvisioned.Holds .attributes (some new) := by
  have hparts : new.extract 0 Command.attributesSize ++ new.extract Command.attributesSize new.size =
      new := by
    rw [ByteArray.extract_append_extract, Nat.zero_min, Nat.max_eq_right (by omega),
      ByteArray.extract_zero_size]
  have hfirst : (new.extract 0 Command.attributesSize).size = Command.attributesSize := by
    rw [ByteArray.size_extract]
    omega
  have hlast : (new.extract Command.attributesSize new.size).size =
      Command.attributesDigestSize := by
    rw [ByteArray.size_extract]
    omega
  rw [← congrArg some hparts]
  exact .attributes rfl rfl rfl hfirst hlast

end Lock

/-- The lock of a board has had something burnt in. A board without a lock has nothing to burn. -/
def Board.Burns (burnt : Fuse → Option ByteArray) (b b' : Board) : Prop :=
  ∀ lock, b.lock = some lock → ∃ lock', b'.lock = some lock' ∧ lock.Burns burnt lock'

namespace Board

variable {b b' : Board} {lock lock' : Lock} {burnt : Fuse → Option ByteArray}

theorem burns_none (h : b'.lock = b.lock) : Burns (fun _ => none) b b' :=
  fun lock hlock => ⟨lock, h.trans hlock, Lock.burns_none lock.agrees_refl⟩

theorem burns_of_lock (hlock : b.lock = some lock) (hlock' : b'.lock = some lock')
    (h : lock.Burns burnt lock') : Burns burnt b b' := by
  intro same hsame
  obtain rfl := Option.some.inj (hlock.symm.trans hsame)
  exact ⟨lock', hlock', h⟩

end Board

namespace Command

open Board (Burns burns_none burns_of_lock)

variable {command : String} {t : Target} {reply : Reply} {request : VendorRequest} {b : Board}
  {fuse : Fuse}

/-- The fuse that a vendor command is for. -/
def VendorRequest.fuse? : VendorRequest → Option Fuse
  | fuseAttributes => some .attributes
  | fuseKey => some .key
  | _ => none

/-- The fuse that a command is for. -/
def fuse? (command : String) : Option Fuse :=
  if Verb.ofCommand? command = some .oem then
    (vendorRequest command).toOption.bind VendorRequest.fuse?
  else none

/-- What a vendor command that is carried out on a target burns in: the data of the last download. -/
def VendorRequest.burnt (request : VendorRequest) (t : Target) (fuse : Fuse) : Option ByteArray :=
  if request.fuse? = some fuse then t.downloaded.toOption else none

/-- What a command burns in, as its answer tells: the data of the last download, if the answer is an
`OKAY`. -/
def burnt (command : String) (t : Target) (reply : Reply) (fuse : Fuse) : Option ByteArray :=
  if reply = .okay ∧ fuse? command = some fuse then t.downloaded.toOption else none

theorem burnt_eq_none (h : reply = .okay → fuse? command = none) :
    burnt command t reply = fun _ => none := by
  funext fuse
  refine if_neg ?_
  rintro ⟨hokay, hasked⟩
  cases (h hokay).symm.trans hasked

theorem fuse?_of_ne (hverb : Verb.ofCommand? command ≠ some .oem) : fuse? command = none :=
  if_neg hverb

theorem VendorRequest.burnt_eq_none (h : request.fuse? = none) :
    request.burnt t = fun _ => none := by
  funext fuse
  rw [burnt, h, if_neg nofun]

theorem VendorRequest.burnt_eq_some {payload : ByteArray} (h : request.fuse? = some fuse)
    (hpayload : t.downloaded = .ok payload) :
    request.burnt t = fun other => if other = fuse then some payload else none := by
  funext other
  rw [burnt, h, hpayload]
  simp only [Option.some.injEq, eq_comm]
  rfl

/-! ### What commands do -/

/-- A vendor command burns in what it has to, or nothing. -/
theorem VendorRequest.Deed.burns (h : request.Deed t b) : Burns (request.burnt t) t.board b := by
  cases h with
  | format | getCaRequest | setCaResponse =>
    rw [burnt_eq_none rfl]
    exact burns_none rfl
  | setBoot hstate hlock =>
    have hnone : request.fuse? = none := by cases request <;> first | rfl | cases hstate
    rw [burnt_eq_none hnone]
    exact burns_of_lock hlock rfl (Lock.burns_none (Lock.agrees_refl _))
  | fuseAttributes hpayload hlock hsize =>
    rw [burnt_eq_some rfl hpayload]
    refine burns_of_lock hlock rfl (Lock.burns_of_holds (Lock.holds_attributes _ hsize) ?_)
    rintro (_ | _) hother
    · exact absurd rfl hother
    · rfl
  | fuseKey hpayload hlock hsize =>
    rw [burnt_eq_some rfl hpayload]
    refine burns_of_lock hlock rfl (Lock.burns_of_holds (.key rfl hsize) ?_)
    rintro (_ | _) hother
    · exact ⟨rfl, rfl, rfl⟩
    · exact absurd rfl hother

/-- A vendor command that has been answered by an `OKAY` has burnt in what it is for. -/
theorem burnt_okay (hverb : Verb.ofCommand? command = some .oem)
    (hrequest : vendorRequest command = .ok request) :
    burnt command t .okay = request.burnt t := by
  funext fuse
  have hasked : fuse? command = request.fuse? := by
    rw [fuse?, if_pos hverb, hrequest]
    rfl
  rw [burnt, VendorRequest.burnt, hasked]
  exact if_congr (and_iff_right rfl) rfl rfl

theorem Deed.burns (h : Deed command t reply b) : Burns (burnt command t reply) t.board b := by
  -- but for the vendor commands nothing is asked of the fuses
  have hother : ∀ {verb reply}, Verb.ofCommand? command = some verb → verb ≠ .oem →
      burnt command t reply = fun _ => none := fun hverb hne =>
    burnt_eq_none fun _ => fuse?_of_ne (by simpa [hverb] using hne)
  cases h with
  | refused fault =>
    have hnone : burnt command t (.ofFault fault) = _ := burnt_eq_none nofun
    rw [hnone]
    exact burns_none rfl
  | idle hverb =>
    rw [burnt_eq_none fun _ => fuse?_of_ne fun hoem => nomatch hverb _ hoem]
    exact burns_none rfl
  | reboot hverb | setActive hverb | flash hverb | erase hverb =>
    rw [hother hverb nofun]
    exact burns_none rfl
  | flashing hverb _ _ hlock =>
    rw [hother hverb nofun]
    exact burns_of_lock hlock rfl (Lock.burns_none (Lock.agrees_refl _))
  | vendor hverb hrequest hdeed =>
    rw [burnt_okay hverb hrequest]
    exact hdeed.burns

/-- **What commands make of the fuses.** A command that is for a fuse and is answered by an `OKAY` burns
the whole of the last download in behind it. Under any command all else that is burnt in stays as it is. -/
theorem burns_dispatch (command : String) (t : Target) :
    Burns (burnt command t (dispatch command t).1) t.board (dispatch command t).2.board :=
  (deed_dispatch command t).burns

end Command

end Fastboot
