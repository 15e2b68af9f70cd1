import Fastboot.Board.Storage
import Mathlib.Algebra.GroupWithZero.Nat
import Mathlib.Data.List.Induction
import Mathlib.Order.CompletePartialOrder
import Mathlib.Order.Interval.Set.Disjoint
import Mathlib.Tactic.Common

/-!
# Where partitions lie

A partition is added at the end of the one that ends last, and a name that is added again leaves a hole
where it was. `Storage.Laid` is what this keeps up: every end is at most the sum of the sizes that were
added, which is a position, and no two partitions share a byte. So no end wraps around while partitions
are added, each starts behind all that are present, and the table they make up has no overlaps
(`Storage.laid_addPartitions`, `Storage.layout_addPartitions`).
-/

namespace Fastboot

namespace Partition

variable {p : Partition}

/-- The first position behind a partition. -/
def stop (p : Partition) : Nat :=
  p.offset.toNat + p.size.toNat

/-- The positions of the bytes of a partition. -/
def range (p : Partition) : Set Nat :=
  Set.Ico p.offset.toNat p.stop

/-- The end of a partition is worked out as it is, if it is a position. -/
theorem toNat_offset_add_size (h : p.stop < UInt64.size) :
    (p.offset + p.size).toNat = p.stop := by
  rw [UInt64.toNat_add]
  exact Nat.mod_eq_of_lt h

end Partition

/-- A partition that is to be added. -/
structure Addition where
  name : String
  size : UInt64
  kind : String
  deriving DecidableEq, Repr

/-- The sum of the sizes of what is added. -/
def Addition.total (added : List Addition) : Nat :=
  (added.map (·.size.toNat)).sum

theorem Addition.total_append (before after : List Addition) :
    total (before ++ after) = total before + total after := by
  rw [total, List.map_append, List.sum_append, total, total]

namespace Storage

variable {s : Storage} {name : String} {p q : Partition} {bound : Nat} {a : Addition}
  {before added after : List Addition}

/-- Add partitions one after the other. -/
def addPartitions (s : Storage) (added : List Addition) : Storage :=
  added.foldl (fun s a => s.addPartition a.name a.size a.kind) s

theorem addPartitions_append (s : Storage) (before after : List Addition) :
    s.addPartitions (before ++ after) = (s.addPartitions before).addPartitions after :=
  List.foldl_append

/-- The partition that an addition makes. -/
def made (s : Storage) (a : Addition) : Partition :=
  ⟨a.name, s.nextOffset, a.size, a.kind⟩

theorem find?_addPartition (s : Storage) (a : Addition) (name : String) :
    (s.addPartition a.name a.size a.kind).find? name =
      if name = a.name then some (s.made a) else s.find? name :=
  Table.get?_insert s.partitions a.name (s.made a) name

/-! ### Ends -/

theorem toNat_foldl_max_le_iff (ps : List Partition) (m : UInt64) :
    (ps.foldl (fun m p => max m (p.offset + p.size)) m).toNat ≤ bound ↔
      m.toNat ≤ bound ∧ ∀ p ∈ ps, (p.offset + p.size).toNat ≤ bound := by
  induction ps generalizing m with
  | nil => simp
  | cons p ps ih =>
    have hmax : (max m (p.offset + p.size)).toNat ≤ bound ↔
        m.toNat ≤ bound ∧ (p.offset + p.size).toNat ≤ bound := by
      rw [UInt64.max_def, apply_ite UInt64.toNat]
      split <;> rename_i h <;> rw [UInt64.le_iff_toNat_le] at h <;> omega
    rw [List.foldl_cons, ih, hmax, List.forall_mem_cons, and_assoc]

/-- The next partition starts where all others have ended, and no later. -/
theorem toNat_nextOffset_le_iff :
    s.nextOffset.toNat ≤ bound ↔ ∀ p ∈ s.partitions.values, (p.offset + p.size).toNat ≤ bound := by
  rw [nextOffset, toNat_foldl_max_le_iff]
  exact and_iff_right (Nat.zero_le bound)

/-! ### Layouts -/

/-- All partitions end at `bound` at the latest, which is a position, and no two share a byte. -/
structure Laid (s : Storage) (bound : Nat) : Prop where
  bound_lt : bound < UInt64.size
  stop_le : ∀ p ∈ s.partitions.values, p.stop ≤ bound
  apart : ∀ name other p q, name ≠ other → s.find? name = some p → s.find? other = some q →
    Disjoint p.range q.range

theorem Laid.stop_le_nextOffset (h : s.Laid bound) (hp : p ∈ s.partitions.values) :
    p.stop ≤ s.nextOffset.toNat := by
  rw [← Partition.toNat_offset_add_size (Nat.lt_of_le_of_lt (h.stop_le p hp) h.bound_lt)]
  exact toNat_nextOffset_le_iff.mp le_rfl p hp

theorem Laid.nextOffset_le (h : s.Laid bound) : s.nextOffset.toNat ≤ bound := by
  rw [toNat_nextOffset_le_iff]
  intro p hp
  rw [Partition.toNat_offset_add_size (Nat.lt_of_le_of_lt (h.stop_le p hp) h.bound_lt)]
  exact h.stop_le p hp

/-- What is added lies behind all that is there. -/
theorem Laid.disjoint_made (h : s.Laid bound) (hp : s.find? name = some p) :
    Disjoint p.range (s.made a).range := by
  have hle := h.stop_le_nextOffset (Table.mem_values_of_get? hp)
  rw [Set.disjoint_left]
  intro i hi hi'
  have hlt : i < p.stop := hi.2
  have hge : s.nextOffset.toNat ≤ i := hi'.1
  omega

/-- The step: a partition is added, and the bound grows by its size. -/
theorem Laid.addPartition (h : s.Laid bound) (hlt : bound + a.size.toNat < UInt64.size) :
    (s.addPartition a.name a.size a.kind).Laid (bound + a.size.toNat) where
  bound_lt := hlt
  stop_le := by
    intro p hp
    rcases Table.mem_values_of_mem_insert hp with rfl | hp
    · exact Nat.add_le_add_right h.nextOffset_le _
    · exact Nat.le_add_right_of_le (h.stop_le p hp)
  apart := by
    intro name other p q hne hp hq
    rw [find?_addPartition] at hp hq
    -- At most one of the two is the new partition: a name has one partition.
    split_ifs at hp hq with hname hother hother
    · exact absurd (hname.trans hother.symm) hne
    · cases hp
      exact (h.disjoint_made hq).symm
    · cases hq
      exact h.disjoint_made hp
    · exact h.apart name other p q hne hp hq

/-- The run: any additions whose sizes leave room below `2 ^ 64`. -/
theorem Laid.addPartitions (h : s.Laid bound) (hlt : bound + Addition.total added < UInt64.size) :
    (s.addPartitions added).Laid (bound + Addition.total added) := by
  induction added generalizing s bound with
  | nil => exact h
  | cons a added ih =>
    have htotal : Addition.total (a :: added) = a.size.toNat + Addition.total added := rfl
    rw [htotal, ← Nat.add_assoc] at hlt ⊢
    exact ih (h.addPartition (by omega)) hlt

theorem laid_empty : ({} : Storage).Laid 0 where
  bound_lt := by decide
  stop_le := nofun
  apart := by
    intro name other p q hne hp
    cases hp

theorem laid_addPartitions (h : Addition.total added < UInt64.size) :
    (({} : Storage).addPartitions added).Laid (Addition.total added) := by
  rw [← Nat.zero_add (Addition.total added)] at h ⊢
  exact laid_empty.addPartitions h

/-! ### Names -/

/-- A name that is not added keeps its partition. -/
theorem find?_addPartitions_of_ne (s : Storage) (hne : ∀ a ∈ added, a.name ≠ name) :
    (s.addPartitions added).find? name = s.find? name := by
  induction added generalizing s with
  | nil => rfl
  | cons a added ih =>
    rw [List.forall_mem_cons] at hne
    refine (ih _ hne.2).trans ?_
    rw [find?_addPartition, if_neg hne.1.symm]

/-- A name is known exactly if it was added or known before. -/
theorem isSome_find?_addPartitions (s : Storage) (added : List Addition) (name : String) :
    ((s.addPartitions added).find? name).isSome ↔
      (s.find? name).isSome ∨ name ∈ added.map (·.name) := by
  induction added generalizing s with
  | nil => simp [addPartitions]
  | cons a added ih =>
    refine (ih _).trans ?_
    rw [find?_addPartition, List.map_cons, List.mem_cons, ← or_assoc]
    refine or_congr_left ?_
    split_ifs with hname
    · exact iff_of_true rfl (.inr hname)
    · exact (or_iff_left hname).symm

/-- What is found under a name was made by the last addition of that name. -/
theorem find?_addPartitions_iff :
    (({} : Storage).addPartitions added).find? name = some p ↔
      ∃ before a after, added = before ++ a :: after ∧ a.name = name ∧
        (∀ b ∈ after, b.name ≠ name) ∧ p = (({} : Storage).addPartitions before).made a := by
  constructor
  · intro hfound
    -- From the end: the last addition settles its own name, and leaves the others to those before.
    induction added using List.reverseRecOn with
    | nil => cases hfound
    | append_singleton added last ih =>
      rw [addPartitions_append] at hfound
      have hstep := (find?_addPartition _ last name).symm.trans hfound
      split_ifs at hstep with hname
      · cases hstep
        exact ⟨added, last, [], rfl, hname.symm, nofun, rfl⟩
      · obtain ⟨before, a, after, rfl, ha, hlater, rfl⟩ := ih hstep
        refine ⟨before, a, after ++ [last], by simp, ha, ?_, rfl⟩
        intro b hb
        rcases List.mem_append.mp hb with hb | hb
        · exact hlater b hb
        · rw [List.mem_singleton.mp hb]
          exact Ne.symm hname
  · rintro ⟨before, a, after, rfl, rfl, hlater, rfl⟩
    rw [addPartitions_append]
    refine (find?_addPartitions_of_ne _ hlater).trans ?_
    rw [find?_addPartition, if_pos rfl]

/-- **The layout of a storage.** Partitions are added whose sizes sum up to less than `2 ^ 64`, under
names that may come again. Then no end that is worked out on the way wraps around, and each partition
starts where all that are present have ended. In the table that they make up, a name has the partition
that was added last under it, and no two names share a byte. -/
theorem layout_addPartitions (h : Addition.total added < UInt64.size) :
    (∀ before after, added = before ++ after →
      ∀ p ∈ (({} : Storage).addPartitions before).partitions.values, p.stop < UInt64.size) ∧
    (∀ before a after, added = before ++ a :: after →
      ∀ p ∈ (({} : Storage).addPartitions before).partitions.values,
        p.stop ≤ ((({} : Storage).addPartitions before).made a).offset.toNat) ∧
    (∀ name p, (({} : Storage).addPartitions added).find? name = some p ↔
      ∃ before a after, added = before ++ a :: after ∧ a.name = name ∧
        (∀ b ∈ after, b.name ≠ name) ∧ p = (({} : Storage).addPartitions before).made a) ∧
    (∀ name other p q, name ≠ other →
      (({} : Storage).addPartitions added).find? name = some p →
      (({} : Storage).addPartitions added).find? other = some q → Disjoint p.range q.range) := by
  have hlaid (before after : List Addition) (happend : added = before ++ after) :
      (({} : Storage).addPartitions before).Laid (Addition.total before) := by
    refine laid_addPartitions ?_
    rw [happend, Addition.total_append] at h
    omega
  refine ⟨?_, ?_, fun _ _ => find?_addPartitions_iff, (laid_addPartitions h).apart⟩
  · intro before after happend p hp
    have hbefore := hlaid before after happend
    exact Nat.lt_of_le_of_lt (hbefore.stop_le p hp) hbefore.bound_lt
  · intro before a after happend p hp
    exact (hlaid before (a :: after) happend).stop_le_nextOffset hp

/-- A name that comes again, with a partition of no bytes between. -/
theorem layout_addPartitions_again :
    let added := [⟨"boot", 8, "raw"⟩, ⟨"misc", 0, "raw"⟩, ⟨"boot", 4, "raw"⟩, ⟨"system", 16, "ext4"⟩]
    Addition.total added < UInt64.size ∧
      ∃ p q, (({} : Storage).addPartitions added).find? "boot" = some p ∧
        (({} : Storage).addPartitions added).find? "system" = some q ∧
        p.offset = 8 ∧ q.offset = 12 ∧ Disjoint p.range q.range := by
  intro added
  have htotal : Addition.total added < UInt64.size := by decide
  refine ⟨htotal, ⟨"boot", 8, 4, "raw"⟩, ⟨"system", 12, 16, "ext4"⟩, by decide, by decide, rfl, rfl, ?_⟩
  obtain ⟨-, -, -, hapart⟩ := layout_addPartitions htotal
  exact hapart "boot" "system" _ _ (by decide) (by decide) (by decide)

end Storage

end Fastboot
