import Mathlib.Data.List.Induction
import Mathlib.Data.List.Nodup
import Mathlib.Data.List.Perm.Subperm
import ServiceApi.OrderedMap
import ServiceApi.Proofs.List

/-! # Maps up to their order -/

namespace ServiceApi

/-- What is put under a key replaces what was there. -/
theorem Entries.perm_put {κ ν : Type} [DecidableEq κ] {k : κ} {v : ν} {es : List (κ × ν)}
    (h : (es.map Prod.fst).Nodup) : (put k v es).Perm ((k, v) :: es.filter (·.1 ≠ k)) := by
  induction es with
  | nil => exact .refl _
  | cons e es ih =>
    obtain ⟨hnew, h⟩ := List.nodup_cons.mp h
    rw [put]
    by_cases hk : e.1 = k
    · have hrest : es.filter (·.1 ≠ k) = es := by
        refine List.filter_eq_self.mpr fun e' he' => decide_eq_true ?_
        rintro rfl
        exact hnew (hk ▸ List.mem_map_of_mem he')
      rw [if_pos hk, List.filter_cons_of_neg (by simpa using hk), hrest]
    · rw [if_neg hk, List.filter_cons_of_pos (by simpa using hk)]
      exact ((ih h).cons e).trans (.swap (k, v) e _)

theorem Entries.lookup_map {κ ν μ : Type} [DecidableEq κ] (f : κ → ν → μ)
    (es : List (κ × ν)) (k : κ) :
    (es.map fun e => (e.1, f e.1 e.2)).lookup k = (es.lookup k).map (f k) := by
  induction es with
  | nil => rfl
  | cons e es ih =>
    obtain ⟨k', v⟩ := e
    by_cases h : k = k'
    · subst h
      simp
    · simp only [List.map_cons, List.lookup_cons, beq_false_of_ne h]
      exact ih

namespace OrderedMap

variable {κ ν μ : Type} [DecidableEq κ]

theorem mem_keys_iff {m : OrderedMap κ ν} {k : κ} : k ∈ m.keys ↔ ∃ v, m.get? k = some v :=
  contains_iff_mem.symm.trans contains_iff

theorem entries_insert_of_none {m : OrderedMap κ ν} {k : κ} {v : ν} (h : m.get? k = none) :
    (m.insert k v).entries = m.entries ++ [(k, v)] := by
  have hput := Entries.put_append (v := v) (Entries.lookup_eq_none_iff.mp h) []
  rwa [List.append_nil] at hput

/-- Maps that give the same values hold the same entries. -/
theorem perm_entries {a b : OrderedMap κ ν} (h : ∀ k, a.get? k = b.get? k) :
    a.entries.Perm b.entries := by
  refine (List.perm_ext_iff_of_nodup (a.nodup.of_map _) (b.nodup.of_map _)).mpr fun e => ?_
  rw [mem_entries_iff, mem_entries_iff, h e.1]

/-- Of several values given for one key the last counts, and what was there before if none is
given. -/
theorem get?_foldl_insert (es : List (κ × ν)) (m : OrderedMap κ ν) (k : κ) :
    (es.foldl (fun m e => m.insert e.1 e.2) m).get? k = (es.reverse.lookup k).or (m.get? k) := by
  induction es generalizing m with
  | nil => rfl
  | cons e es ih =>
    rw [List.foldl_cons, ih, get?_insert, List.reverse_cons, List.lookup_append, Option.or_assoc]
    by_cases hk : k = e.1
    · rw [if_pos hk, hk, List.lookup_cons_self, Option.some_or]
    · rw [if_neg hk, List.lookup_cons, beq_false_of_ne hk, List.lookup_nil, Option.none_or]

theorem get?_ofList (es : List (κ × ν)) (k : κ) : (ofList es).get? k = es.reverse.lookup k := by
  rw [ofList, get?_foldl_insert, get?_empty, Option.or_none]

theorem mem_of_get?_ofList {es : List (κ × ν)} {k : κ} {v : ν} (h : (ofList es).get? k = some v) :
    (k, v) ∈ es :=
  List.mem_reverse.mp (Entries.mem_of_lookup (get?_ofList es k ▸ h))

theorem exists_get?_ofList {es : List (κ × ν)} {k : κ} (h : k ∈ es.map Prod.fst) :
    ∃ v, (ofList es).get? k = some v := by
  rw [← Option.isSome_iff_exists, Option.isSome_iff_ne_none, get?_ofList, Ne,
    Entries.lookup_eq_none_iff, Decidable.not_not, List.map_reverse, List.mem_reverse]
  exact h

/-- Keys stand in the order in which they were first given. -/
theorem keys_ofList (es : List (κ × ν)) : (ofList es).keys = (es.map Prod.fst).eraseDups := by
  induction es using List.reverseRecOn with
  | nil => rfl
  | append_singleton es e ih =>
    unfold ofList at ih ⊢
    rw [List.foldl_concat, keys_insert, ih, List.map_append, List.map_singleton, eraseDups_concat]

section Keyed

variable (key : ν → κ) (vs : List ν)

theorem lookup_map_key (k : κ) : (vs.map fun v => (key v, v)).lookup k = vs.find? (key · = k) := by
  induction vs with
  | nil => rfl
  | cons v vs ih =>
    rw [List.map_cons, List.find?_cons]
    by_cases hk : key v = k
    · rw [hk, List.lookup_cons_self, decide_eq_true rfl]
    · rw [List.lookup_cons, beq_false_of_ne (Ne.symm hk), decide_eq_false hk, ih]

theorem mem_entries_ofList_map_key {e : κ × ν} : e ∈ (ofList (vs.map fun v => (key v, v))).entries ↔
    vs.reverse.find? (key · = e.1) = some e.2 := by
  rw [mem_entries_iff, get?_ofList, ← List.map_reverse, lookup_map_key]

theorem key_of_mem_entries {e : κ × ν} (h : e ∈ (ofList (vs.map fun v => (key v, v))).entries) :
    key e.2 = e.1 := by
  simpa using List.find?_some ((mem_entries_ofList_map_key key vs).mp h)

/-- Of the values with one key the last is kept, -/
theorem mem_values_ofList_map_key {v : ν} : v ∈ (ofList (vs.map fun v => (key v, v))).values ↔
    vs.reverse.find? (key · = key v) = some v := by
  constructor
  · intro hv
    obtain ⟨e, he, rfl⟩ := List.mem_map.mp hv
    rw [key_of_mem_entries key vs he]
    exact (mem_entries_ofList_map_key key vs).mp he
  · intro hfind
    exact List.mem_map.mpr ⟨(key v, v), (mem_entries_ofList_map_key key vs).mpr hfind, rfl⟩

/-- and it stands where the first of them was given. -/
theorem map_values_ofList_map_key :
    (ofList (vs.map fun v => (key v, v))).values.map key = (vs.map key).eraseDups := by
  have hkeys : (ofList (vs.map fun v => (key v, v))).values.map key =
      (ofList (vs.map fun v => (key v, v))).keys := by
    unfold values keys
    rw [List.map_map]
    exact List.map_congr_left fun e he => key_of_mem_entries key vs he
  rw [hkeys, keys_ofList, List.map_map]
  rfl

end Keyed

theorem get?_mapValues (f : κ → ν → μ) (m : OrderedMap κ ν) (k : κ) :
    (m.mapValues f).get? k = (m.get? k).map (f k) := Entries.lookup_map f m.entries k

theorem get?_ofList_map (f : ν → μ) (es : List (κ × ν)) (k : κ) :
    (ofList (es.map fun e => (e.1, f e.2))).get? k = ((ofList es).get? k).map f := by
  rw [get?_ofList, get?_ofList, ← List.map_reverse]
  exact Entries.lookup_map (fun _ => f) _ k

theorem mapValues_mapValues {ξ : Type} (g : κ → μ → ξ) (f : κ → ν → μ) (m : OrderedMap κ ν) :
    (m.mapValues f).mapValues g = m.mapValues fun k v => g k (f k v) :=
  OrderedMap.ext List.map_map

theorem mapValues_id (m : OrderedMap κ ν) : (m.mapValues fun _ v => v) = m :=
  OrderedMap.ext (List.map_id _)

theorem values_mapValues (f : ν → μ) (m : OrderedMap κ ν) :
    (m.mapValues fun _ v => f v).values = m.values.map f := by
  rw [values, values, mapValues, List.map_map, List.map_map]
  rfl

/-- Nothing changes just if no value does. -/
theorem mapValues_eq_iff {f : ν → ν} {m : OrderedMap κ ν} :
    (m.mapValues fun _ v => f v) = m ↔ ∀ v ∈ m.values, f v = v := by
  have hentries : (m.mapValues fun _ v => f v) = m ↔
      m.entries.map (fun e => (e.1, f e.2)) = m.entries.map id := by
    rw [List.map_id]
    exact ⟨congrArg entries, fun h => OrderedMap.ext h⟩
  rw [hentries, List.map_inj_left, values, List.forall_mem_map]
  exact forall₂_congr fun e _ => ⟨congrArg Prod.snd, congrArg (Prod.mk e.1)⟩

section Equality

variable [BEq ν] [LawfulBEq ν] {a b : OrderedMap κ ν}

/-- Maps are equal just if they have the same entries, in whatever order. -/
theorem beq_iff_perm : (a == b) = true ↔ a.entries.Perm b.entries := by
  have hentry (e : κ × ν) : (b.get? e.1).any (e.2 == ·) = true ↔ e ∈ b.entries := by
    rw [mem_entries_iff, Option.any_eq_true]
    simp
  have hbeq : (a == b) = true ↔ a.entries.length = b.entries.length ∧ a.entries ⊆ b.entries := by
    change (a.entries.length == b.entries.length && a.entries.all _) = true ↔ _
    rw [Bool.and_eq_true, beq_iff_eq, List.all_eq_true]
    exact and_congr_right fun _ => forall₂_congr fun e _ => hentry e
  rw [hbeq]
  refine ⟨fun ⟨hlength, hsub⟩ => ?_, fun h => ⟨h.length_eq, h.subset⟩⟩
  exact (List.subperm_of_subset (a.nodup.of_map _) hsub).perm_of_length_le
    (Nat.le_of_eq hlength.symm)

instance : EquivBEq (OrderedMap κ ν) where
  rfl := beq_iff_perm.mpr (.refl _)
  symm h := beq_iff_perm.mpr (beq_iff_perm.mp h).symm
  trans h h' := beq_iff_perm.mpr ((beq_iff_perm.mp h).trans (beq_iff_perm.mp h'))

end Equality

end OrderedMap

end ServiceApi
