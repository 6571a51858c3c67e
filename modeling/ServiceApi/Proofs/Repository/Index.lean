import ServiceApi.Proofs.List
import ServiceApi.Proofs.Schema.Settled

/-! # The schemas that an API uses

The index of an API holds schemas by name, the first of a name staying. Whatever schema is in it,
each schema that its fields refer to is in it by name, or is that of any value: while schemas are
pending, the references may lead to a pending one instead.

Indexing comes to an end because every schema refers on once: the names seen only grow, and what is
pending is paid for by the finished schemas whose names have not been seen. -/

namespace ServiceApi

open Schema

variable {P : Catalog → Prop} {slots slots' : Slots} {idx : OrderedMap String Compiled}
  {pending : List Compiled} {seen : List String} {s : Compiled} {api : ApiKey}

theorem Slots.mem_finished {key : SchemaKey} (h : slots.get? key = some (.done s)) :
    s ∈ slots.finished := by
  have hmem : (Slot.done s) ∈ slots.values := List.mem_map_of_mem (Entries.mem_of_lookup h)
  exact List.mem_filterMap.mpr ⟨.done s, hmem, rfl⟩

/-! ## How long indexing takes -/

/-- How much is pending, and what the schemas that have not been seen may add to it. -/
def indexBudget (slots : Slots) (seen : List String) (pending : List Compiled) : Nat :=
  pending.length +
    ((slots.finished.filter (·.schema.name ∉ seen)).flatMap (·.schema.targets)).length

theorem indexBudget_start (slots : Slots) (s : Compiled) :
    indexBudget slots [] [s] = Repository.indexSteps slots := by
  have h : slots.finished.filter (·.schema.name ∉ ([] : List String)) = slots.finished :=
    List.filter_eq_self.mpr fun _ _ => decide_eq_true List.not_mem_nil
  rw [indexBudget, h]
  rfl

/-- A schema that is seen for the first time pays for all that it adds. -/
theorem indexBudget_step {targets : List Compiled} (hs : s ∈ slots.finished)
    (hseen : s.schema.name ∉ seen) (hlen : targets.length = s.schema.targets.length) :
    indexBudget slots (s.schema.name :: seen) (targets.reverse ++ pending) <
      indexBudget slots seen (s :: pending) := by
  have hsum := length_flatMap_filter_add_le (fun x : Compiled => x.schema.targets)
    (p := fun x => decide (x.schema.name ∉ seen))
    (q := fun x => decide (x.schema.name ∉ s.schema.name :: seen))
    (fun x hx => by simp_all) hs (decide_eq_true hseen) (by simp)
  simp only [indexBudget, List.length_append, List.length_reverse, List.length_cons]
  omega

/-! ## What is in an index -/

/-- `s` is that of any value, or one of its name is in the index. -/
def Reached (idx : OrderedMap String Compiled) (s : Schema) : Prop :=
  s.isAny = true ∨ idx.contains s.name = true

/-- The references of what is in the index lead into it, or to what is pending. -/
structure IndexedUpTo (slots : Slots) (pending : List Compiled)
    (idx : OrderedMap String Compiled) : Prop where
  named : ∀ e ∈ idx.entries, e.1 = e.2.schema.name ∧ e.2.schema.isAny = false
  kept : ∀ e ∈ idx.entries, ∃ key, slots.get? key = some (.done e.2)
  reached : ∀ e ∈ idx.entries, ∀ target ∈ e.2.schema.targets, ∀ a,
    slots.get? target = some (.done a) → Reached idx a.schema ∨ a ∈ pending

namespace IndexedUpTo

theorem empty (slots : Slots) (pending : List Compiled) : IndexedUpTo slots pending .empty :=
  ⟨fun _ he => (List.not_mem_nil he).elim, fun _ he => (List.not_mem_nil he).elim,
    fun _ he => (List.not_mem_nil he).elim⟩

theorem drop (h : IndexedUpTo slots (s :: pending) idx) (hs : Reached idx s.schema) :
    IndexedUpTo slots pending idx := by
  refine ⟨h.named, h.kept, fun e he target ht a ha => ?_⟩
  rcases h.reached e he target ht a ha with hr | hp
  · exact Or.inl hr
  · rcases List.mem_cons.mp hp with rfl | hp
    · exact Or.inl hs
    · exact Or.inr hp

theorem insertNew {targets : List Compiled} (h : IndexedUpTo slots (s :: pending) idx)
    (hany : s.schema.isAny = false) {key : SchemaKey} (hkey : slots.get? key = some (.done s))
    (htargets : ∀ target ∈ s.schema.targets, ∀ a, slots.get? target = some (.done a) →
      a ∈ targets) :
    IndexedUpTo slots (targets.reverse ++ pending) (idx.insertNew s.schema.name s) := by
  refine ⟨fun e he => ?_, fun e he => ?_, fun e he target ht a ha => ?_⟩
  · rcases OrderedMap.mem_entries_insertNew he with rfl | he
    · exact ⟨rfl, hany⟩
    · exact h.named e he
  · rcases OrderedMap.mem_entries_insertNew he with rfl | he
    · exact ⟨key, hkey⟩
    · exact h.kept e he
  · rcases OrderedMap.mem_entries_insertNew he with rfl | he
    · exact Or.inr (List.mem_append_left _ (List.mem_reverse.mpr (htargets target ht a ha)))
    · rcases h.reached e he target ht a ha with (hr | hr) | hp
      · exact Or.inl (Or.inl hr)
      · exact Or.inl (Or.inr (by rw [OrderedMap.contains_insertNew, hr, Bool.or_true]))
      · rcases List.mem_cons.mp hp with rfl | hp
        · exact Or.inl (Or.inr (by
            rw [OrderedMap.contains_insertNew, decide_eq_true rfl, Bool.true_or]))
        · exact Or.inr (List.mem_append_right _ hp)

/-- What the schemas refer to has a slot already, which does not change. -/
theorem grows {c : Catalog} (h : IndexedUpTo slots [] idx) (hset : Settled P slots)
    (hg : Grows c slots slots') : IndexedUpTo slots' [] idx := by
  refine ⟨h.named, fun e he => ?_, fun e he target ht a ha => ?_⟩
  · obtain ⟨key, hkey⟩ := h.kept e he
    exact ⟨key, hg.keeps key _ hkey⟩
  · obtain ⟨key, hkey⟩ := h.kept e he
    obtain ⟨b, hb⟩ := hset.closed hkey ht
    rw [hg.keeps target _ hb] at ha
    cases ha
    exact h.reached e he target ht _ hb

end IndexedUpTo

/-! ## Indexing -/

namespace Repository

open Compile

theorem indexOf_keep (api api' : ApiKey) (s : Compiled) (repo : Repository) :
    (repo.keep api s).indexOf api' =
      if api' = api then (repo.indexOf api).insertNew s.schema.name s else repo.indexOf api' := by
  rw [indexOf, keep]
  dsimp only
  rw [OrderedMap.get?_insert]
  split <;> rfl

/-- What holds of a schema holds of all that its fields refer to. -/
def Inherited (slots : Slots) (R : Compiled → Prop) : Prop :=
  ∀ a, R a → ∀ target ∈ a.schema.targets, ∀ b, slots.get? target = some (.done b) → R b

/-- What indexing `pending` for `api` makes of a repository. -/
structure Indexes (api : ApiKey) (pending : List Compiled) (s t : Repository) : Prop where
  slots : t.slots = s.slots
  installed : t.installed = s.installed
  others : ∀ api', api' ≠ api → t.indexOf api' = s.indexOf api'
  grows : ∀ name, (s.indexOf api).contains name = true → (t.indexOf api).contains name = true
  indexed : IndexedUpTo s.slots [] (t.indexOf api)
  reached : ∀ a ∈ pending, Reached (t.indexOf api) a.schema
  entries : ∀ R, Inherited s.slots R → (∀ a ∈ pending, R a) →
    ∀ e ∈ (t.indexOf api).entries, e ∈ (s.indexOf api).entries ∨ R e.2

theorem mapM_resolve (hset : Settled P slots) {key : SchemaKey}
    (hkey : slots.get? key = some (.done s)) : ∃ targets,
    s.schema.targets.mapM slots.resolve = .ok targets ∧
      targets.length = s.schema.targets.length ∧
      (∀ a ∈ targets, ∃ target ∈ s.schema.targets, slots.get? target = some (.done a)) ∧
      ∀ target ∈ s.schema.targets, ∀ a, slots.get? target = some (.done a) → a ∈ targets := by
  suffices h : ∀ keys : List SchemaKey, (∀ k ∈ keys, ∃ a, slots.get? k = some (.done a)) →
      ∃ targets, keys.mapM slots.resolve = .ok targets ∧ targets.length = keys.length ∧
        (∀ a ∈ targets, ∃ k ∈ keys, slots.get? k = some (.done a)) ∧
        ∀ k ∈ keys, ∀ a, slots.get? k = some (.done a) → a ∈ targets from
    h s.schema.targets fun target ht => hset.closed hkey ht
  intro keys
  induction keys with
  | nil =>
    exact fun _ => ⟨[], rfl, rfl, fun _ h => (List.not_mem_nil h).elim,
      fun _ h => (List.not_mem_nil h).elim⟩
  | cons k keys ih =>
    intro hkeys
    obtain ⟨a, ha⟩ := hkeys k List.mem_cons_self
    obtain ⟨rest, hrest, hlen, hfrom, hto⟩ := ih fun k' hk' => hkeys k' (List.mem_cons_of_mem k hk')
    refine ⟨a :: rest, ?_, congrArg (· + 1) hlen, fun b hb => ?_, fun k' hk' b hb => ?_⟩
    · rw [List.mapM_cons, Slots.resolve_eq_ok.mpr ha, hrest]
      rfl
    · rcases List.mem_cons.mp hb with rfl | hb
      · exact ⟨k, List.mem_cons_self, ha⟩
      · obtain ⟨k', hk', hb⟩ := hfrom b hb
        exact ⟨k', List.mem_cons_of_mem k hk', hb⟩
    · rcases List.mem_cons.mp hk' with rfl | hk'
      · rw [ha] at hb
        cases hb
        exact List.mem_cons_self
      · exact List.mem_cons_of_mem a (hto k' hk' b hb)

namespace Indexes

variable {repo t : Repository} {a : Compiled}

theorem nil (h : IndexedUpTo repo.slots [] (repo.indexOf api)) : Indexes api [] repo repo :=
  ⟨rfl, rfl, fun _ _ => rfl, fun _ h => h, h, fun _ ha => (List.not_mem_nil ha).elim,
    fun _ _ _ _ he => Or.inl he⟩

theorem skip (h : Indexes api pending repo t) (ha : Reached (repo.indexOf api) a.schema) :
    Indexes api (a :: pending) repo t := by
  refine ⟨h.slots, h.installed, h.others, h.grows, h.indexed, fun b hb => ?_,
    fun R hR hpending => h.entries R hR fun b hb => hpending b (List.mem_cons_of_mem a hb)⟩
  rcases List.mem_cons.mp hb with rfl | hb
  · exact ha.imp_right (h.grows _)
  · exact h.reached b hb

theorem keep {targets : List Compiled}
    (h : Indexes api (targets ++ pending) (repo.keep api a) t)
    (htargets : ∀ b ∈ targets, ∃ target ∈ a.schema.targets,
      repo.slots.get? target = some (.done b)) :
    Indexes api (a :: pending) repo t := by
  have hkeep (name : String) : ((repo.keep api a).indexOf api).contains name =
      (decide (name = a.schema.name) || (repo.indexOf api).contains name) := by
    rw [indexOf_keep, if_pos rfl, OrderedMap.contains_insertNew]
  refine ⟨h.slots, h.installed, fun api' hne => ?_, fun name hname => ?_, h.indexed, fun b hb => ?_,
    fun R hR hpending e he => ?_⟩
  · rw [h.others api' hne, indexOf_keep, if_neg hne]
  · exact h.grows name (by rw [hkeep, hname, Bool.or_true])
  · rcases List.mem_cons.mp hb with rfl | hb
    · exact Or.inr (h.grows _ (by rw [hkeep, decide_eq_true rfl, Bool.true_or]))
    · exact h.reached b (List.mem_append_right _ hb)
  · obtain ⟨ha, hrest⟩ := List.forall_mem_cons.mp hpending
    have hnext : ∀ b ∈ targets ++ pending, R b := by
      intro b hb
      rcases List.mem_append.mp hb with hb | hb
      · obtain ⟨target, ht, hb⟩ := htargets b hb
        exact hR a ha target ht b hb
      · exact hrest b hb
    refine (h.entries R hR hnext e he).elim (fun he => ?_) Or.inr
    rw [indexOf_keep, if_pos rfl] at he
    rcases OrderedMap.mem_entries_insertNew he with rfl | he
    · exact Or.inr ha
    · exact Or.inl he

end Indexes

theorem indexAll_indexes (hset : Settled P slots) (api : ApiKey) : ∀ (fuel : Nat)
    (seen : List String) (pending : List Compiled) (repo : Repository), repo.slots = slots →
    indexBudget slots seen pending ≤ fuel →
    (∀ a ∈ pending, ∃ key, slots.get? key = some (.done a)) →
    IndexedUpTo slots pending (repo.indexOf api) →
    (∀ name ∈ seen, (repo.indexOf api).contains name = true) →
    ∃ t, (indexAll api fuel seen pending).result repo = (.ok ⟨⟩, t) ∧ Indexes api pending repo t
  | _, _, [], repo, hslots, _, _, hidx, _ =>
    ⟨repo, by rw [indexAll, result_pure], .nil (hslots ▸ hidx)⟩
  | 0, _, _ :: _, _, _, hfuel, _, _, _ => by simp [indexBudget] at hfuel
  | fuel + 1, seen, a :: pending, repo, hslots, hfuel, hpending, hidx, hseen => by
    have hrest : ∀ b ∈ pending, ∃ key, slots.get? key = some (.done b) :=
      fun b hb => hpending b (List.mem_cons_of_mem a hb)
    rw [indexAll]
    by_cases hskip : (a.schema.isAny || seen.contains a.schema.name) = true
    · rw [if_pos hskip]
      have hreached : Reached (repo.indexOf api) a.schema := by
        rw [Bool.or_eq_true, List.contains_iff_mem] at hskip
        exact hskip.imp_right (hseen _)
      have hbudget : indexBudget slots seen pending ≤ fuel := by
        rw [indexBudget, List.length_cons] at hfuel
        rw [indexBudget]
        omega
      obtain ⟨t, ht, hindexes⟩ := indexAll_indexes hset api fuel seen pending repo hslots hbudget
        hrest (hidx.drop hreached) hseen
      exact ⟨t, ht, hindexes.skip hreached⟩
    · rw [if_neg hskip]
      rw [Bool.not_eq_true, Bool.or_eq_false_iff] at hskip
      obtain ⟨hany, hunseen⟩ := hskip
      have hunseen : a.schema.name ∉ seen := by simpa using hunseen
      obtain ⟨key, hkey⟩ := hpending a List.mem_cons_self
      obtain ⟨targets, htargets, hlen, hfrom, hto⟩ := mapM_resolve hset hkey
      have hindex : (repo.keep api a).indexOf api =
          (repo.indexOf api).insertNew a.schema.name a := by
        rw [indexOf_keep, if_pos rfl]
      have hbudget : indexBudget slots (a.schema.name :: seen) (targets.reverse ++ pending) <
          indexBudget slots seen (a :: pending) :=
        indexBudget_step (Slots.mem_finished hkey) hunseen hlen
      have hnext : ∀ b ∈ targets.reverse ++ pending, ∃ key, slots.get? key = some (.done b) := by
        intro b hb
        rcases List.mem_append.mp hb with hb | hb
        · obtain ⟨target, -, hb⟩ := hfrom b (List.mem_reverse.mp hb)
          exact ⟨target, hb⟩
        · exact hrest b hb
      have hnames : ∀ name ∈ a.schema.name :: seen,
          ((repo.keep api a).indexOf api).contains name = true := by
        intro name hname
        rw [hindex, OrderedMap.contains_insertNew]
        rcases List.mem_cons.mp hname with rfl | hname
        · rw [decide_eq_true rfl, Bool.true_or]
        · rw [hseen name hname, Bool.or_true]
      have hidx := hidx.insertNew hany hkey hto
      rw [← hindex] at hidx
      obtain ⟨t, ht, hindexes⟩ := indexAll_indexes hset api fuel _ _ (repo.keep api a) hslots
        (by omega) hnext hidx hnames
      refine ⟨t, ?_, hindexes.keep fun b hb => hslots ▸ hfrom b (List.mem_reverse.mp hb)⟩
      rw [bind_of_ok (result_get repo), hslots, htargets, bind_of_ok (result_ofExcept _ _),
        bind_of_ok (result_modify _ _)]
      exact ht

/-- Indexing a finished schema does not fail. -/
theorem addToApi_indexes {repo : Repository} {key : SchemaKey} (hset : Settled P repo.slots)
    (hkey : repo.slots.get? key = some (.done s))
    (hidx : IndexedUpTo repo.slots [] (repo.indexOf api)) :
    ∃ t, (addToApi api s).result repo = (.ok ⟨⟩, t) ∧ Indexes api [s] repo t := by
  rw [addToApi, bind_of_ok (result_get repo)]
  have hbudget := Nat.le_of_eq (indexBudget_start repo.slots s)
  refine indexAll_indexes hset api _ [] [s] repo rfl hbudget (fun a ha => ?_) ?_
    fun _ hname => (List.not_mem_nil hname).elim
  · cases List.mem_singleton.mp ha
    exact ⟨key, hkey⟩
  · exact ⟨hidx.named, hidx.kept, fun e he target ht a ha =>
      Or.inl ((hidx.reached e he target ht a ha).resolve_right List.not_mem_nil)⟩

end Repository

end ServiceApi
