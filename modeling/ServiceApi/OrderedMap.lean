/-!
# Maps in insertion order

A finite map that remembers the order in which its keys were first inserted. Inserting a key that is
present replaces the value and keeps the place. Two maps are `==` when they hold the same entries,
in whatever order.
-/

namespace ServiceApi

namespace Entries

variable {κ ν : Type} [DecidableEq κ]

/-- Replaces the first value at `k`, or adds an entry at the end. -/
def put (k : κ) (v : ν) : List (κ × ν) → List (κ × ν)
  | [] => [(k, v)]
  | (k', v') :: rest => if k' = k then (k, v) :: rest else (k', v') :: put k v rest

theorem keys_put (k : κ) (v : ν) (es : List (κ × ν)) :
    (put k v es).map Prod.fst =
      if k ∈ es.map Prod.fst then es.map Prod.fst else es.map Prod.fst ++ [k] := by
  induction es with
  | nil => simp [put]
  | cons e es ih =>
    obtain ⟨k', v'⟩ := e
    by_cases h : k' = k
    · simp [put, h]
    · simp only [put, h, if_false, List.map_cons, ih, List.mem_cons, Ne.symm h, false_or]
      split <;> simp

theorem nodup_put {k : κ} {v : ν} {es : List (κ × ν)} (h : (es.map Prod.fst).Nodup) :
    ((put k v es).map Prod.fst).Nodup := by
  rw [keys_put]
  split
  · exact h
  · rename_i hk
    rw [List.nodup_append]
    refine ⟨h, by simp, fun a ha b hb => ?_⟩
    rw [List.mem_singleton] at hb
    subst hb
    exact fun he => hk (he ▸ ha)

theorem lookup_put (k k' : κ) (v : ν) (es : List (κ × ν)) :
    (put k v es).lookup k' = if k' = k then some v else es.lookup k' := by
  induction es with
  | nil =>
    by_cases h : k' = k
    · simp [put, h]
    · simp [put, List.lookup_cons, h, beq_false_of_ne h]
  | cons e es ih =>
    obtain ⟨k₀, v₀⟩ := e
    by_cases h₀ : k₀ = k
    · subst h₀
      by_cases h : k' = k₀
      · simp [put, h]
      · simp [put, List.lookup_cons, h, beq_false_of_ne h]
    · by_cases h : k' = k₀
      · subst h
        simp [put, h₀]
      · simp [put, List.lookup_cons, h₀, beq_false_of_ne h, ih]

theorem put_put (k : κ) (v w : ν) (es : List (κ × ν)) : put k w (put k v es) = put k w es := by
  induction es with
  | nil => simp [put]
  | cons e es ih => by_cases h : e.1 = k <;> simp [put, h, ih]

theorem put_append {k : κ} {v : ν} {es : List (κ × ν)} (h : k ∉ es.map Prod.fst)
    (fs : List (κ × ν)) : put k v (es ++ fs) = es ++ put k v fs := by
  induction es with
  | nil => rfl
  | cons e es ih =>
    rw [List.map_cons, List.mem_cons, not_or] at h
    simp [put, Ne.symm h.1, ih h.2]

theorem mem_put {k : κ} {v : ν} {e : κ × ν} {es : List (κ × ν)} (h : e ∈ put k v es) :
    e = (k, v) ∨ e ∈ es := by
  induction es with
  | nil => exact Or.inl (List.mem_singleton.mp h)
  | cons x es ih =>
    rw [put] at h
    split at h
    · rcases List.mem_cons.mp h with rfl | h
      · exact Or.inl rfl
      · exact Or.inr (List.mem_cons_of_mem _ h)
    · rcases List.mem_cons.mp h with rfl | h
      · exact Or.inr List.mem_cons_self
      · exact (ih h).imp_right (List.mem_cons_of_mem _)

theorem lookup_eq_none_iff {k : κ} {es : List (κ × ν)} :
    es.lookup k = none ↔ k ∉ es.map Prod.fst := by
  induction es with
  | nil => simp
  | cons e es ih =>
    rw [List.map_cons, List.mem_cons, not_or]
    by_cases h : k = e.1
    · simp [h]
    · rw [List.lookup_cons, beq_false_of_ne h]
      exact ih.trans (by simp only [h, not_false_eq_true, true_and])

theorem mem_of_lookup {k : κ} {v : ν} {es : List (κ × ν)} (h : es.lookup k = some v) :
    (k, v) ∈ es := by
  induction es with
  | nil => cases h
  | cons e es ih =>
    by_cases hk : k = e.1
    · subst hk
      rw [List.lookup_cons_self] at h
      cases h
      exact List.mem_cons_self
    · rw [List.lookup_cons, beq_false_of_ne hk] at h
      exact List.mem_cons_of_mem _ (ih h)

theorem lookup_of_mem {k : κ} {v : ν} {es : List (κ × ν)} (hn : (es.map Prod.fst).Nodup)
    (h : (k, v) ∈ es) : es.lookup k = some v := by
  induction es with
  | nil => cases h
  | cons e es ih =>
    rw [List.map_cons, List.nodup_cons] at hn
    rcases List.mem_cons.mp h with rfl | h
    · exact List.lookup_cons_self
    · have hne : k ≠ e.1 := fun he => hn.1 (he ▸ List.mem_map_of_mem h)
      rw [List.lookup_cons, beq_false_of_ne hne]
      exact ih hn.2 h

end Entries

@[ext]
structure OrderedMap (κ ν : Type) [DecidableEq κ] where
  entries : List (κ × ν)
  nodup : (entries.map Prod.fst).Nodup

namespace OrderedMap

variable {κ ν : Type} [DecidableEq κ]

def empty : OrderedMap κ ν := ⟨[], List.nodup_nil⟩

instance : EmptyCollection (OrderedMap κ ν) := ⟨empty⟩

instance : Inhabited (OrderedMap κ ν) := ⟨empty⟩

def keys (m : OrderedMap κ ν) : List κ := m.entries.map Prod.fst

def values (m : OrderedMap κ ν) : List ν := m.entries.map Prod.snd

def size (m : OrderedMap κ ν) : Nat := m.entries.length

def isEmpty (m : OrderedMap κ ν) : Bool := m.entries.isEmpty

def get? (m : OrderedMap κ ν) (k : κ) : Option ν := m.entries.lookup k

def contains (m : OrderedMap κ ν) (k : κ) : Bool := (m.get? k).isSome

def insert (m : OrderedMap κ ν) (k : κ) (v : ν) : OrderedMap κ ν :=
  ⟨Entries.put k v m.entries, Entries.nodup_put m.nodup⟩

/-- Adds `v` at `k` only if `k` is absent. -/
def insertNew (m : OrderedMap κ ν) (k : κ) (v : ν) : OrderedMap κ ν :=
  if m.contains k then m else m.insert k v

def erase (m : OrderedMap κ ν) (k : κ) : OrderedMap κ ν :=
  ⟨m.entries.filter (·.1 ≠ k), m.nodup.sublist (List.filter_sublist.map _)⟩

def ofList (es : List (κ × ν)) : OrderedMap κ ν :=
  es.foldl (fun m e => m.insert e.1 e.2) empty

/-- Changes every value, in place. -/
def mapValues {μ : Type} (f : κ → ν → μ) (m : OrderedMap κ ν) : OrderedMap κ μ :=
  ⟨m.entries.map fun e => (e.1, f e.1 e.2), by
    have h : (m.entries.map fun e => (e.1, f e.1 e.2)).map Prod.fst = m.entries.map Prod.fst := by
      simp [Function.comp_def]
    rw [h]
    exact m.nodup⟩

theorem entries_insert (m : OrderedMap κ ν) (k : κ) (v : ν) :
    (m.insert k v).entries = Entries.put k v m.entries := rfl

theorem entries_erase (m : OrderedMap κ ν) (k : κ) :
    (m.erase k).entries = m.entries.filter (·.1 ≠ k) := rfl

@[simp] theorem get?_empty (k : κ) : (empty : OrderedMap κ ν).get? k = none := rfl

theorem get?_insert (m : OrderedMap κ ν) (k k' : κ) (v : ν) :
    (m.insert k v).get? k' = if k' = k then some v else m.get? k' :=
  Entries.lookup_put k k' v m.entries

theorem keys_insert (m : OrderedMap κ ν) (k : κ) (v : ν) :
    (m.insert k v).keys = if k ∈ m.keys then m.keys else m.keys ++ [k] :=
  Entries.keys_put k v m.entries

theorem contains_iff {m : OrderedMap κ ν} {k : κ} :
    m.contains k = true ↔ ∃ v, m.get? k = some v := Option.isSome_iff_exists

theorem mem_entries_iff {m : OrderedMap κ ν} {k : κ} {v : ν} :
    (k, v) ∈ m.entries ↔ m.get? k = some v :=
  ⟨Entries.lookup_of_mem m.nodup, Entries.mem_of_lookup⟩

theorem contains_eq_false_iff {m : OrderedMap κ ν} {k : κ} :
    m.contains k = false ↔ m.get? k = none := by
  simp [contains]

theorem contains_eq_false_iff_not_mem {m : OrderedMap κ ν} {k : κ} :
    m.contains k = false ↔ k ∉ m.keys :=
  contains_eq_false_iff.trans Entries.lookup_eq_none_iff

theorem contains_iff_mem {m : OrderedMap κ ν} {k : κ} : m.contains k = true ↔ k ∈ m.keys := by
  rw [← Bool.not_eq_false, contains_eq_false_iff_not_mem, Decidable.not_not]

theorem contains_insert (m : OrderedMap κ ν) (k k' : κ) (v : ν) :
    (m.insert k v).contains k' = (decide (k' = k) || m.contains k') := by
  rw [contains, get?_insert]
  split <;> simp_all [contains]

theorem contains_insert_self (m : OrderedMap κ ν) (k : κ) (v : ν) :
    (m.insert k v).contains k = true := by
  rw [contains_insert, decide_eq_true rfl, Bool.true_or]

theorem contains_insert_of_contains {m : OrderedMap κ ν} {k' : κ}
    (h : m.contains k' = true) (k : κ) (v : ν) : (m.insert k v).contains k' = true := by
  rw [contains_insert, h, Bool.or_true]

theorem insert_insert (m : OrderedMap κ ν) (k : κ) (v w : ν) :
    (m.insert k v).insert k w = m.insert k w := by
  simp only [insert, Entries.put_put]

theorem contains_insertNew (m : OrderedMap κ ν) (k k' : κ) (v : ν) :
    (m.insertNew k v).contains k' = (decide (k' = k) || m.contains k') := by
  rw [insertNew]
  split
  · rename_i h
    by_cases hk : k' = k
    · rw [hk, h, Bool.or_true]
    · rw [decide_eq_false hk, Bool.false_or]
  · exact contains_insert m k k' v

theorem get?_insertNew (m : OrderedMap κ ν) (k k' : κ) (v : ν) :
    (m.insertNew k v).get? k' = (m.get? k').or (if k' = k then some v else none) := by
  rw [insertNew]
  by_cases h : m.contains k = true
  · rw [if_pos h]
    obtain ⟨w, hw⟩ := contains_iff.mp h
    split
    · rename_i hk
      rw [hk, hw, Option.some_or]
    · rw [Option.or_none]
  · rw [if_neg h, get?_insert]
    rw [Bool.not_eq_true, contains_eq_false_iff] at h
    split
    · rename_i hk
      rw [hk, h, Option.none_or]
    · rw [Option.or_none]

theorem mem_entries_insertNew {m : OrderedMap κ ν} {k : κ} {v : ν} {e : κ × ν}
    (h : e ∈ (m.insertNew k v).entries) : e = (k, v) ∨ e ∈ m.entries := by
  rw [insertNew] at h
  split at h
  · exact Or.inr h
  · exact Entries.mem_put h

/-- The same entries, in any order. -/
def sameEntries [BEq ν] (a b : OrderedMap κ ν) : Bool :=
  a.size == b.size && a.entries.all fun (k, v) => (b.get? k).any (v == ·)

instance [BEq ν] : BEq (OrderedMap κ ν) := ⟨sameEntries⟩

end OrderedMap

end ServiceApi
