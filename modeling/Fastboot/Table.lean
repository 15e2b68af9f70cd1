/-!
# Keyed tables

A `Table κ ν` holds one value per key, in the order in which the keys first came. `Table.get?` is its
view: what `insert` and `erase` do is said through it (`get?_insert`, `get?_erase`).
-/

namespace Fastboot

/-- Values by key. -/
structure Table (κ ν : Type) where
  entries : List (κ × ν) := []
  deriving DecidableEq, Repr

namespace Table

variable {κ ν : Type} [DecidableEq κ]

def empty : Table κ ν := {}

/-- The value of a key. -/
def get? (t : Table κ ν) (k : κ) : Option ν :=
  (t.entries.find? fun e => e.1 = k).map (·.2)

private def put (k : κ) (v : ν) : List (κ × ν) → List (κ × ν)
  | [] => [(k, v)]
  | e :: es => if e.1 = k then (k, v) :: es else e :: put k v es

/-- Give a key a value, in place of the one it had. -/
def insert (t : Table κ ν) (k : κ) (v : ν) : Table κ ν :=
  ⟨put k v t.entries⟩

/-- Take a key and its value away. -/
def erase (t : Table κ ν) (k : κ) : Table κ ν :=
  ⟨t.entries.filter fun e => e.1 ≠ k⟩

def values (t : Table κ ν) : List ν :=
  t.entries.map (·.2)

@[simp]
theorem get?_empty (k : κ) : (empty : Table κ ν).get? k = none := rfl

private theorem find?_put (k : κ) (v : ν) (j : κ) (es : List (κ × ν)) :
    ((put k v es).find? fun e => e.1 = j).map (·.2) =
      if j = k then some v else (es.find? fun e => e.1 = j).map (·.2) := by
  induction es with
  | nil => by_cases h : j = k <;> simp [put, h, eq_comm]
  | cons e es ih =>
    by_cases he : e.1 = k <;> by_cases hj : j = k <;> by_cases hej : e.1 = j <;>
      simp_all [put]

theorem get?_insert (t : Table κ ν) (k : κ) (v : ν) (j : κ) :
    (t.insert k v).get? j = if j = k then some v else t.get? j :=
  find?_put k v j t.entries

/-- What is found in a table is one of its values. -/
theorem mem_values_of_get? {t : Table κ ν} {k : κ} {v : ν} (h : t.get? k = some v) :
    v ∈ t.values := by
  obtain ⟨e, he, rfl⟩ := Option.map_eq_some_iff.mp h
  exact List.mem_map_of_mem (List.mem_of_find?_eq_some he)

private theorem mem_of_mem_put {k : κ} {v : ν} {es : List (κ × ν)} {e : κ × ν}
    (h : e ∈ put k v es) : e = (k, v) ∨ e ∈ es := by
  induction es with
  | nil => exact .inl (List.mem_singleton.mp h)
  | cons e' es ih =>
    by_cases hk : e'.1 = k <;> simp only [put, hk, if_true, if_false, List.mem_cons] at h ⊢
    · exact h.imp_right .inr
    · exact h.elim (fun h => .inr (.inl h)) fun h => (ih h).imp_right .inr

/-- To give a key a value adds no other value. -/
theorem mem_values_of_mem_insert {t : Table κ ν} {k : κ} {v w : ν}
    (h : w ∈ (t.insert k v).values) : w = v ∨ w ∈ t.values := by
  obtain ⟨e, he, rfl⟩ := List.mem_map.mp h
  exact (mem_of_mem_put he).imp (congrArg Prod.snd) List.mem_map_of_mem

theorem get?_erase (t : Table κ ν) (k j : κ) :
    (t.erase k).get? j = if j = k then none else t.get? j := by
  simp only [erase, get?, List.find?_filter]
  by_cases h : j = k
  · subst h; simp
  · rw [if_neg h]
    congr 2
    funext e
    by_cases hej : e.1 = j <;> simp [hej, h]

end Table

end Fastboot
