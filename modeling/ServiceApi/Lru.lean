/-!
# Bounded maps that forget what was used longest ago

The entries stand in the order of their last use, the latest first. An insertion into a full map
drops the last one.
-/

namespace ServiceApi

structure Lru (κ ν : Type) [DecidableEq κ] where
  capacity : Nat
  entries : List (κ × ν)
  capacity_pos : 0 < capacity
  nodup : (entries.map Prod.fst).Nodup
  size_le : entries.length ≤ capacity

namespace Lru

variable {κ ν : Type} [DecidableEq κ]

/-- The entries without the one at `k`. -/
def without (k : κ) (es : List (κ × ν)) : List (κ × ν) := es.filter (·.1 ≠ k)

theorem nodup_without {k : κ} {es : List (κ × ν)} (h : (es.map Prod.fst).Nodup) :
    ((without k es).map Prod.fst).Nodup :=
  h.sublist (List.filter_sublist.map _)

theorem not_mem_keys_without (k : κ) (es : List (κ × ν)) :
    k ∉ (without k es).map Prod.fst := by
  simp [without]

theorem length_without_le (k : κ) (es : List (κ × ν)) : (without k es).length ≤ es.length :=
  List.length_filter_le _ _

theorem length_without_lt {k : κ} {v : ν} {es : List (κ × ν)} (h : es.lookup k = some v) :
    (without k es).length < es.length := by
  induction es with
  | nil => simp at h
  | cons e es ih =>
    obtain ⟨k', v'⟩ := e
    by_cases hk : k' = k
    · subst hk
      simpa [without] using Nat.lt_succ_of_le (length_without_le k' es)
    · have hl : es.lookup k = some v := by
        simpa [List.lookup_cons, beq_false_of_ne (Ne.symm hk)] using h
      simpa [without, hk] using ih hl

def empty (capacity : Nat) (h : 0 < capacity := by omega) : Lru κ ν :=
  ⟨capacity, [], h, by simp, by simp⟩

def size (m : Lru κ ν) : Nat := m.entries.length

def isEmpty (m : Lru κ ν) : Bool := m.entries.isEmpty

def isFull (m : Lru κ ν) : Bool := m.capacity ≤ m.size

/-- The value at `k`, and the map in which it was used last. -/
def use? (m : Lru κ ν) (k : κ) : Option (ν × Lru κ ν) :=
  match h : m.entries.lookup k with
  | none => none
  | some v => some (v,
    { m with
      entries := (k, v) :: without k m.entries
      nodup := by
        rw [List.map_cons, List.nodup_cons]
        exact ⟨not_mem_keys_without k _, nodup_without m.nodup⟩
      size_le := by
        have h₁ := length_without_lt h
        have h₂ := m.size_le
        rw [List.length_cons]
        omega })

/-- Puts a value at `k` as the last used, and drops what exceeds the capacity. -/
def insert (m : Lru κ ν) (k : κ) (v : ν) : Lru κ ν :=
  { m with
    entries := (k, v) :: (without k m.entries).take (m.capacity - 1)
    nodup := by
      rw [List.map_cons, List.nodup_cons, List.map_take]
      exact ⟨fun h => not_mem_keys_without k m.entries (List.mem_of_mem_take h),
        (nodup_without m.nodup).sublist (List.take_sublist _ _)⟩
    size_le := by
      have h₁ := m.capacity_pos
      rw [List.length_cons, List.length_take]
      omega }

def clear (m : Lru κ ν) : Lru κ ν := { m with entries := [], nodup := by simp, size_le := by simp }

end Lru

end ServiceApi
