import ServiceApi.Lru
import ServiceApi.OrderedMap
import ServiceApi.Proofs.List

/-! # What a bounded map holds

A bounded map that was new or cleared at some time holds the keys that were used since then, the
last one first and each of them once, as many of them as fit. To look a key up and to insert it are
its uses. -/

namespace ServiceApi.Lru

variable {κ ν : Type} [DecidableEq κ] {m m' : Lru κ ν} {k : κ} {v : ν} {used : List κ}

def keys (m : Lru κ ν) : List κ := m.entries.map Prod.fst

theorem nodup_keys (m : Lru κ ν) : m.keys.Nodup := m.nodup

theorem length_keys (m : Lru κ ν) : m.keys.length = m.size := List.length_map _

theorem filter_ne_eq_erase {as : List κ} (h : as.Nodup) (k : κ) :
    as.filter (· ≠ k) = as.erase k := by
  rw [h.erase_eq_filter]
  exact List.filter_congr fun a _ => by rw [decide_not, bne, beq_eq_decide]

theorem map_fst_without (k : κ) (es : List (κ × ν)) :
    (without k es).map Prod.fst = (es.map Prod.fst).filter (· ≠ k) :=
  (List.filter_map (f := Prod.fst) (p := (· ≠ k)) (l := es)).symm

/-! ## The operations -/

theorem use?_eq_none_iff : m.use? k = none ↔ k ∉ m.keys := by
  rw [keys, ← Entries.lookup_eq_none_iff]
  unfold use?
  split
  · rename_i hlookup
    exact iff_of_true rfl hlookup
  · rename_i hlookup
    exact iff_of_false nofun (by rw [hlookup]; nofun)

/-- A key that is found moves to the front. -/
theorem use?_eq_some (h : m.use? k = some (v, m')) :
    (k, v) ∈ m.entries ∧ m'.capacity = m.capacity ∧ m'.entries = (k, v) :: without k m.entries := by
  unfold use? at h
  split at h
  · cases h
  · rename_i hlookup
    cases h
    exact ⟨Entries.mem_of_lookup hlookup, rfl, rfl⟩

theorem use?_entries (h : m.use? k = some (v, m')) :
    (k, v) ∈ m.entries ∧ ∀ e ∈ m'.entries, e ∈ m.entries := by
  obtain ⟨hmem, -, hentries⟩ := use?_eq_some h
  rw [hentries, List.forall_mem_cons]
  exact ⟨hmem, hmem, fun e he => List.mem_of_mem_filter he⟩

/-- To use a key loses no entry. -/
theorem size_use? (h : m.use? k = some (v, m')) : m'.size = m.size := by
  obtain ⟨hmem, -, hentries⟩ := use?_eq_some h
  have hkey : k ∈ m.keys := List.mem_map_of_mem hmem
  have hlength : ((m.keys.filter (· ≠ k))).length + 1 = m.keys.length := by
    rw [filter_ne_eq_erase m.nodup_keys]
    exact List.length_erase_add_one hkey
  rw [size, hentries, List.length_cons, ← length_keys, ← hlength, keys,
    ← map_fst_without, List.length_map]

/-- What is inserted takes the place of an entry just if there is no other place. -/
theorem size_insert (h : k ∉ m.keys) :
    (m.insert k v).size + (if m.isFull then 1 else 0) = m.size + 1 := by
  have hkept : without k m.entries = m.entries := by
    refine List.filter_eq_self.mpr fun e he => decide_eq_true ?_
    rintro rfl
    exact h (List.mem_map_of_mem he)
  have hle := m.size_le
  have hpos := m.capacity_pos
  have hentries : (m.insert k v).entries = (k, v) :: m.entries.take (m.capacity - 1) := by
    simp only [insert, hkept]
  rw [size, hentries, List.length_cons, List.length_take, isFull, size]
  by_cases hfull : m.capacity ≤ m.entries.length
  · rw [if_pos (decide_eq_true hfull)]
    omega
  · rw [if_neg (by simpa using hfull)]
    omega

/-! ## What was used last -/

/-- Of a list without repetition, as much as has place beside `k`. -/
theorem take_filter_take {as : List κ} (h : as.Nodup) (k : κ) (n : Nat) :
    ((as.take n).filter (· ≠ k)).take (n - 1) = (as.filter (· ≠ k)).take (n - 1) := by
  conv_rhs => rw [← List.take_append_drop n as, List.filter_append, List.take_append]
  by_cases hlong : n ≤ as.length
  · have hlength : n - 1 ≤ ((as.take n).filter (· ≠ k)).length := by
      rw [filter_ne_eq_erase ((List.take_sublist n as).nodup h),
        List.length_erase, List.length_take, Nat.min_eq_left hlong]
      split <;> omega
    rw [Nat.sub_eq_zero_of_le hlength, List.take_zero, List.append_nil]
  · rw [List.drop_of_length_le (by omega), List.filter_nil, List.take_nil, List.append_nil]

/-- The map holds what was used last of `used`, the last use first. -/
def Holds (m : Lru κ ν) (used : List κ) : Prop := m.keys = used.eraseDups.take m.capacity

theorem holds_empty (capacity : Nat) (h : 0 < capacity) :
    Holds (empty capacity h : Lru κ ν) [] := by
  rw [Holds, List.eraseDups_nil, List.take_nil]
  rfl

theorem holds_clear (m : Lru κ ν) : Holds m.clear [] := by
  rw [Holds, List.eraseDups_nil, List.take_nil]
  rfl

theorem Holds.use? (hm : m.Holds used) (h : m.use? k = some (v, m')) : m'.Holds (k :: used) := by
  obtain ⟨hmem, hcapacity, hentries⟩ := use?_eq_some h
  obtain ⟨n, hn⟩ := Nat.exists_eq_add_one.mpr m.capacity_pos
  have hshort : (m.keys.filter (· ≠ k)).length ≤ n := by
    have hlt : (m.keys.filter (· ≠ k)).length < m.keys.length := by
      refine List.length_filter_lt_length_iff_exists.mpr ⟨k, List.mem_map_of_mem hmem, ?_⟩
      simp
    have hle := m.size_le
    rw [length_keys, size] at hlt
    omega
  have htake := take_filter_take (nodup_eraseDups used) k m.capacity
  rw [← hm, hn, Nat.add_sub_cancel, List.take_of_length_le hshort] at htake
  rw [Holds, keys, hentries, List.map_cons, map_fst_without, eraseDups_cons_eq, hcapacity, hn,
    List.take_succ_cons, ← htake]
  rfl

theorem Holds.insert (hm : m.Holds used) (k : κ) (v : ν) : (m.insert k v).Holds (k :: used) := by
  obtain ⟨n, hn⟩ := Nat.exists_eq_add_one.mpr m.capacity_pos
  have htake := take_filter_take (nodup_eraseDups used) k m.capacity
  rw [← hm, hn, Nat.add_sub_cancel] at htake
  have hkeys : (m.insert k v).keys = k :: (m.keys.filter (· ≠ k)).take n := by
    rw [keys, Lru.insert, List.map_cons, List.map_take, map_fst_without, hn, Nat.add_sub_cancel]
    rfl
  have hcapacity : (m.insert k v).capacity = n + 1 := hn
  rw [Holds, hkeys, eraseDups_cons_eq, hcapacity, List.take_succ_cons, htake]

end ServiceApi.Lru
