import Fastboot.Proofs.Board.Layout

/-!
# What partitions hold

`s.performAll operations` is the storage after some operations, and `s.performed operations` lists those of
them that did not fail. The images are a matter of that list alone: a partition holds what was written to it
last, unless it was erased since (`Storage.Latest`). Failures are a matter of the messages that were injected
and of the table of partitions, which no operation changes. `Storage.Records` is what holds after every step,
and `Storage.images_performAll` says it of every run.
-/

namespace Fastboot.Storage

/-- What can be done to a storage. -/
inductive Operation where
  | write (name : String) (image : ByteArray)
  | erase (name : String)
  /-- Write the partition table anew. -/
  | writeTable
  /-- Let every write from now on fail. -/
  | failWrites (message : String)

/-- The partition whose image an operation changes. -/
def Operation.target? : Operation → Option String
  | write name _ | erase name => some name
  | writeTable | failWrites _ => none

/-- The message that an operation injects. -/
def Operation.message? : Operation → Option String
  | failWrites message => some message
  | _ => none

/-- The message that was injected last. -/
def injected? (operations : List Operation) : Option String :=
  operations.reverse.findSome? Operation.message?

/-- Do an operation. -/
def apply (s : Storage) : Operation → Except BoardError Storage
  | .write name image => s.write name image
  | .erase name => s.erase name
  | .writeTable => s.writeTable
  | .failWrites message => .ok { s with failWrites := some message }

/-- The storage after an operation. One that fails leaves it as it is. -/
def perform (s : Storage) (o : Operation) : Storage :=
  match s.apply o with
  | .ok s' => s'
  | .error _ => s

/-- The storage after some operations. -/
def performAll (s : Storage) (operations : List Operation) : Storage :=
  operations.foldl perform s

/-- The operations that did not fail, the first one first. -/
def performed (s : Storage) : List Operation → List Operation
  | [] => []
  | o :: operations =>
    match s.apply o with
    | .ok s' => o :: s'.performed operations
    | .error _ => s.performed operations

/-- The last operation that changed the image of a partition has written this one. -/
def Latest (done : List Operation) (name : String) (image : ByteArray) : Prop :=
  ∃ before after, done = before ++ .write name image :: after ∧
    ∀ o ∈ after, o.target? ≠ some name

variable {s s' built : Storage} {name : String} {image : ByteArray} {o : Operation}
  {operations done : List Operation} {e : BoardError}

theorem performAll_concat (s : Storage) (operations : List Operation) (o : Operation) :
    s.performAll (operations ++ [o]) = (s.performAll operations).perform o := by
  simp [performAll]

theorem performed_append (s : Storage) (operations more : List Operation) :
    s.performed (operations ++ more) =
      s.performed operations ++ (s.performAll operations).performed more := by
  induction operations generalizing s with
  | nil => rfl
  | cons o operations ih =>
    rw [List.cons_append, performed, performed, performAll, List.foldl_cons, perform]
    cases s.apply o with
    | ok s' => exact congrArg (o :: ·) (ih s')
    | error e => exact ih s

theorem performed_singleton_of_ok (h : s.apply o = .ok s') : s.performed [o] = [o] := by
  rw [performed, h]
  rfl

theorem performed_singleton_of_error (h : s.apply o = .error e) : s.performed [o] = [] := by
  rw [performed, h, performed]

theorem injected?_concat (operations : List Operation) (o : Operation) :
    injected? (operations ++ [o]) = o.message?.or (injected? operations) := by
  simp [injected?, List.findSome?_cons, Option.or]
  cases o.message? <;> rfl

/-- The last operation decides about its own partition and leaves all others. -/
theorem latest_concat_iff : Latest (done ++ [o]) name image ↔
    o = .write name image ∨ o.target? ≠ some name ∧ Latest done name image := by
  constructor
  · rintro ⟨before, after, happend, hafter⟩
    induction after using List.reverseRecOn with
    | nil =>
      obtain ⟨-, hlast⟩ := List.append_inj' happend rfl
      exact .inl (List.singleton_inj.mp hlast)
    | append_singleton after last ih =>
      rw [← List.cons_append, ← List.append_assoc] at happend
      obtain ⟨rfl, hlast⟩ := List.append_inj' happend rfl
      obtain rfl := List.singleton_inj.mp hlast
      exact .inr ⟨hafter o (by simp), before, after, rfl,
        fun o' ho' => hafter o' (List.mem_append_left _ ho')⟩
  · rintro (rfl | ⟨hother, before, after, rfl, hafter⟩)
    · exact ⟨done, [], rfl, nofun⟩
    · refine ⟨before, after ++ [o], by simp, ?_⟩
      intro o' ho'
      rcases List.mem_append.mp ho' with ho' | ho'
      · exact hafter o' ho'
      · rwa [List.mem_singleton.mp ho']

/-! ### Writes -/

/-- A write asks for injected failures first, then for the partition and then for its size. -/
theorem write_eq_error_iff : s.write name image = .error e ↔
    (∃ message, s.failWrites = some message ∧ e = .failed message) ∨
    (s.failWrites = none ∧ s.find? name = none ∧ e = .failed "partition does not exist") ∨
    (s.failWrites = none ∧ ∃ p, s.find? name = some p ∧ p.size.toNat < image.size ∧
      e = .failed "too large for partition") := by
  unfold write
  cases s.failWrites with
  | some message => simp [eq_comm]
  | none =>
    cases s.find? name with
    | none => simp [eq_comm]
    | some p =>
      by_cases hsize : p.size.toNat < image.size <;> simp [hsize, eq_comm]

theorem write_eq_ok_iff : s.write name image = .ok s' ↔
    s.failWrites = none ∧ (∃ p, s.find? name = some p ∧ image.size ≤ p.size.toNat) ∧
      s' = { s with images := s.images.insert name image } := by
  unfold write
  cases s.failWrites with
  | some message => simp
  | none =>
    cases s.find? name with
    | none => simp
    | some p =>
      by_cases hsize : p.size.toNat < image.size
      · simp [hsize]
      · simp [hsize, Nat.le_of_not_lt hsize, eq_comm]

theorem erase_eq_ok_iff : s.erase name = .ok s' ↔
    (s.find? name).isSome ∧ s' = { s with images := s.images.erase name } := by
  unfold erase
  cases s.find? name <;> simp [eq_comm]

theorem writeTable_eq_ok_iff : s.writeTable = .ok s' ↔
    s.formattable ∧ s' = { s with tableWrites := s.tableWrites + 1 } := by
  unfold writeTable
  cases s.formattable <;> simp [eq_comm]

/-! ### Steps -/

/-- What an operation that did not fail has done. -/
structure Applied (s : Storage) (o : Operation) (s' : Storage) : Prop where
  partitions_eq : s'.partitions = s.partitions
  failWrites_eq : s'.failWrites = o.message?.or s.failWrites
  image?_iff (name : String) (image : ByteArray) : s'.image? name = some image ↔
    o = .write name image ∨ o.target? ≠ some name ∧ s.image? name = some image
  fits (name : String) (image : ByteArray) (hwrite : o = .write name image) :
    ∃ p, s.find? name = some p ∧ image.size ≤ p.size.toNat

theorem applied_of_ok (h : s.apply o = .ok s') : s.Applied o s' := by
  cases o with
  | write written image =>
    obtain ⟨-, hfits, rfl⟩ := write_eq_ok_iff.mp h
    refine ⟨rfl, rfl, fun name image' => ?_, fun name image' hwrite => ?_⟩
    · rw [image?_of_write h]
      split_ifs with hname
      · simp [Operation.target?, hname]
      · simp [Operation.target?, Ne.symm hname]
    · cases hwrite
      exact hfits
  | erase erased =>
    obtain ⟨-, rfl⟩ := erase_eq_ok_iff.mp h
    refine ⟨rfl, rfl, fun name image => ?_, nofun⟩
    rw [image?_of_erase h]
    split_ifs with hname
    · simp [Operation.target?, hname]
    · simp [Operation.target?, Ne.symm hname]
  | writeTable =>
    obtain ⟨-, rfl⟩ := writeTable_eq_ok_iff.mp h
    exact ⟨rfl, rfl, fun name image => by simp [Operation.target?, image?], nofun⟩
  | failWrites message =>
    cases h
    exact ⟨rfl, rfl, fun name image => by simp [Operation.target?, image?], nofun⟩

/-- Only writes fail because of an injected message, so the injection itself does not fail. -/
theorem message?_of_error (h : s.apply o = .error e) : o.message? = none := by
  cases o with
  | failWrites message => cases h
  | _ => rfl

/-! ### Runs -/

/-- What holds of the storage `s` after some operations on a storage `built` without images. -/
structure Records (built : Storage) (operations : List Operation) (s : Storage) : Prop where
  partitions_eq : s.partitions = built.partitions
  failWrites_eq : s.failWrites = injected? operations
  image?_iff (name : String) (image : ByteArray) : s.image? name = some image ↔
    Latest (built.performed operations) name image
  fits (name : String) (image : ByteArray) (himage : s.image? name = some image) :
    ∃ p, built.find? name = some p ∧ image.size ≤ p.size.toNat

theorem records_nil (himages : built.images = .empty) (hworks : built.failWrites = none) :
    built.Records [] built where
  partitions_eq := rfl
  failWrites_eq := hworks
  image?_iff name image := by
    rw [image?, himages]
    refine iff_of_false nofun ?_
    rintro ⟨before, after, happend, -⟩
    cases before <;> cases happend
  fits name image himage := by
    rw [image?, himages] at himage
    cases himage

theorem Records.concat (h : built.Records operations (built.performAll operations))
    (o : Operation) :
    built.Records (operations ++ [o]) (built.performAll (operations ++ [o])) := by
  rw [performAll_concat, perform]
  -- An operation that fails changes neither the storage nor the list of those that did not.
  cases hstep : (built.performAll operations).apply o with
  | error e =>
    have hdone : built.performed (operations ++ [o]) = built.performed operations := by
      rw [performed_append, performed_singleton_of_error hstep, List.append_nil]
    exact {
      partitions_eq := h.partitions_eq
      failWrites_eq := by
        rw [injected?_concat, message?_of_error hstep, Option.none_or]
        exact h.failWrites_eq
      image?_iff := by
        rw [hdone]
        exact h.image?_iff
      fits := h.fits }
  | ok s =>
    have hdone : built.performed (operations ++ [o]) = built.performed operations ++ [o] := by
      rw [performed_append, performed_singleton_of_ok hstep]
    have happlied := applied_of_ok hstep
    exact {
      partitions_eq := happlied.partitions_eq.trans h.partitions_eq
      failWrites_eq := by
        rw [injected?_concat, happlied.failWrites_eq, h.failWrites_eq]
      image?_iff := fun name image => by
        rw [hdone, latest_concat_iff, happlied.image?_iff, h.image?_iff]
      fits := fun name image himage => by
        rcases (happlied.image?_iff name image).mp himage with hwrite | ⟨-, hkept⟩
        · obtain ⟨p, hp, hsize⟩ := happlied.fits name image hwrite
          rw [find?, h.partitions_eq] at hp
          exact ⟨p, hp, hsize⟩
        · exact h.fits name image hkept }

theorem records_performAll (himages : built.images = .empty) (hworks : built.failWrites = none)
    (operations : List Operation) :
    built.Records operations (built.performAll operations) := by
  induction operations using List.reverseRecOn with
  | nil => exact records_nil himages hworks
  | append_singleton operations o ih => exact ih.concat o

/-- Additions leave the images alone, and whether writes fail. -/
theorem addPartitions_eq (s : Storage) (added : List Addition) :
    s.addPartitions added = { s with partitions := (s.addPartitions added).partitions } := by
  induction added generalizing s with
  | nil => rfl
  | cons a added ih => exact ih _

/-- **What partitions hold.** Partitions are added to an empty storage, and then any operations are done.
Whatever these are, a partition holds what was written to it last by a write that did not fail, unless it
was erased since, and nothing otherwise. Only what was added has an image, which fits the size it is found
with. A write fails with the message that was injected last, if there is one, else because there is no such
partition or because the image is larger than the size that the partition is found with. -/
theorem images_performAll (added : List Addition) (operations : List Operation) :
    let built := ({} : Storage).addPartitions added
    let s := built.performAll operations
    (∀ name image, s.image? name = some image ↔ Latest (built.performed operations) name image) ∧
    (∀ name, (s.find? name).isSome ↔ name ∈ added.map (·.name)) ∧
    (∀ name, s.find? name = built.find? name) ∧
    (∀ name image, s.image? name = some image →
      ∃ p, s.find? name = some p ∧ image.size ≤ p.size.toNat) ∧
    (∀ name image e, s.write name image = .error e ↔
      (∃ message, injected? operations = some message ∧ e = .failed message) ∨
      (injected? operations = none ∧ s.find? name = none ∧
        e = .failed "partition does not exist") ∨
      (injected? operations = none ∧ ∃ p, s.find? name = some p ∧ p.size.toNat < image.size ∧
        e = .failed "too large for partition")) := by
  intro built s
  have hbuilt : built = { ({} : Storage) with partitions := built.partitions } :=
    addPartitions_eq {} added
  have hrecords : built.Records operations s :=
    records_performAll (by rw [hbuilt]) (by rw [hbuilt]) operations
  have hfind (name : String) : s.find? name = built.find? name :=
    congrArg (Table.get? · name) hrecords.partitions_eq
  refine ⟨hrecords.image?_iff, fun name => ?_, hfind, fun name image himage => ?_,
    fun name image e => ?_⟩
  · rw [hfind, isSome_find?_addPartitions]
    exact or_iff_right nofun
  · rw [hfind]
    exact hrecords.fits name image himage
  · rw [write_eq_error_iff, hrecords.failWrites_eq]

end Fastboot.Storage
