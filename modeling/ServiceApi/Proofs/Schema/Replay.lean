import ServiceApi.Proofs.Schema.Rules

/-! # Filling again what was filled before

Slots that are settled hold nothing that filling from the start would not hold. Keys that are passed
over there can be filled here: their plans need keys that are settled too, and there are only so
many of them. So a traversal that starts on settled slots and one that starts without them meet the
same failure, or fill every key with the same schema. All keys are of the same rules, and what the
slots of other rules hold makes no difference. -/

namespace ServiceApi

open Schema Compile

variable {c : Catalog} {rules : SerializationRules} {W cold cold' cold'' warm : Slots}
  {key : SchemaKey} {keys : List SchemaKey} {r : Except ApiError Slots}

/-- What `cold'` has beyond `cold` it has from `W`. -/
def Draws (W cold cold' : Slots) : Prop :=
  ∀ key, cold'.get? key = cold.get? key ∨ cold.get? key = none ∧ cold'.get? key = W.get? key

namespace Draws

theorem refl (W cold : Slots) : Draws W cold cold := fun _ => Or.inl rfl

theorem trans (h : Draws W cold cold') (h' : Draws W cold' cold'') : Draws W cold cold'' := by
  intro key
  rcases h' key with he | ⟨hnone, he⟩
  · rw [he]
    exact h key
  · rcases h key with he' | ⟨hnone', -⟩
    · exact Or.inr ⟨he' ▸ hnone, he⟩
    · exact Or.inr ⟨hnone', he⟩

theorem contains (h : Draws W cold cold') (hc : cold.contains key = true) :
    cold'.contains key = true := by
  obtain ⟨x, hx⟩ := OrderedMap.contains_iff.mp hc
  rcases h key with he | ⟨hnone, -⟩
  · exact OrderedMap.contains_iff.mpr ⟨x, he.trans hx⟩
  · rw [hnone] at hx
    cases hx

theorem fill {s : Compiled} (h : Draws W (cold.insert key .building) cold')
    (hc : cold.get? key = none) (hW : W.get? key = some (.done s)) :
    Draws W cold (cold'.insert key (.done s)) := by
  intro k
  rw [OrderedMap.get?_insert]
  by_cases hk : k = key
  · subst hk
    rw [if_pos rfl]
    exact Or.inr ⟨hc, hW.symm⟩
  · have hk' := h k
    rw [OrderedMap.get?_insert, if_neg hk] at hk'
    rw [if_neg hk]
    exact hk'

end Draws

theorem Fills.append {keys' : List SchemaKey} {slots : Slots} {r r' : Except ApiError Slots}
    (h : Fills c slots keys r) : ∀ slots', r = .ok slots' → Fills c slots' keys' r' →
      Fills c slots (keys ++ keys') r' := by
  induction h with
  | nil => intro slots' hr h'; cases hr; exact h'
  | known hc _ ih => exact fun slots' hr h' => .known hc (ih slots' hr h')
  | needFails => intro slots' hr; cases hr
  | fails => intro slots' hr; cases hr
  | fills fuel hc hneeds ho _ _ ih =>
    exact fun slots' hr h' => .fills fuel hc hneeds ho (ih slots' hr h')

/-- Settled keys can be filled wherever they are missing. The induction is on the settled keys that
are. -/
theorem fills_of_missing (hW : SettledOn rules c W) (n : Nat) : ∀ missing : List SchemaKey,
    missing.length = n → ∀ (keys : List SchemaKey) (cold : Slots),
      (∀ k, W.contains k = true → cold.contains k = true ∨ k ∈ missing) →
      (∀ k ∈ keys, k.rules = rules ∧ W.contains k = true) →
      ∃ cold', Fills c cold keys (.ok cold') ∧ Draws W cold cold' := by
  induction n using Nat.strongRecOn with
  | ind n ihn =>
    intro missing hlen keys
    induction keys with
    | nil => exact fun cold _ _ => ⟨cold, .nil, .refl _ _⟩
    | cons key keys ih =>
      intro cold hmissing hkeys
      have hrest : ∀ k ∈ keys, k.rules = rules ∧ W.contains k = true :=
        fun k hk => hkeys k (List.mem_cons_of_mem _ hk)
      by_cases hc : cold.contains key = true
      · obtain ⟨cold', hf, hd⟩ := ih cold hmissing hrest
        exact ⟨cold', .known hc hf, hd⟩
      · rw [Bool.not_eq_true] at hc
        obtain ⟨hrules, hkey⟩ := hkeys key List.mem_cons_self
        obtain ⟨x, hx⟩ := OrderedMap.contains_iff.mp hkey
        obtain ⟨s, rfl, fuel, ho, hn⟩ := hW key x hrules hx
        have hmem : key ∈ missing := (hmissing key hkey).resolve_left (by rw [hc]; simp)
        have hless : (missing.erase key).length < n := by
          have hpos := List.length_pos_of_mem hmem
          rw [List.length_erase_of_mem hmem]
          omega
        have hmissing' : ∀ k, W.contains k = true →
            (cold.insert key .building).contains k = true ∨ k ∈ missing.erase key := by
          intro k hk
          rw [OrderedMap.contains_insert]
          by_cases he : k = key
          · exact Or.inl (by rw [decide_eq_true he, Bool.true_or])
          · rcases hmissing k hk with h | h
            · exact Or.inl (by rw [h, Bool.or_true])
            · exact Or.inr ((List.mem_erase_of_ne he).mpr h)
        obtain ⟨cold₁, hf₁, hd₁⟩ := ihn _ hless (missing.erase key) rfl
          (planOf c fuel key).needs (cold.insert key .building) hmissing' fun need hneed =>
            ⟨(planOf_needs c fuel key need hneed).1.trans hrules, hn need hneed⟩
        have hd := hd₁.fill (OrderedMap.contains_eq_false_iff.mp hc) hx
        obtain ⟨cold₂, hf₂, hd₂⟩ := ih (cold₁.insert key (.done s))
          (fun k hk => (hmissing k hk).imp_left hd.contains) hrest
        exact ⟨cold₂, .fills fuel hc hf₁ ho hf₂, hd.trans hd₂⟩

theorem fills_of_settled (hW : SettledOn rules c W) (hrules : key.rules = rules)
    (hkey : W.contains key = true) (cold : Slots) :
    ∃ cold', Fills c cold [key] (.ok cold') ∧ Draws W cold cold' :=
  fills_of_missing hW _ W.keys rfl [key] cold
    (fun _ hk => Or.inr (OrderedMap.contains_iff_mem.mp hk))
    fun k hk => by rw [List.mem_singleton.mp hk]; exact ⟨hrules, hkey⟩

theorem needs_rules (fuel : Nat) (hkeys : ∀ k ∈ key :: keys, k.rules = rules) :
    ∀ need ∈ (planOf c fuel key).needs, need.rules = rules := fun need hneed =>
  (planOf_needs c fuel key need hneed).1.trans (hkeys key List.mem_cons_self)

/-! ## Two traversals side by side -/

/-- `warm` holds what `cold` holds, and what was in `W` before. -/
def Warms (W cold warm : Slots) : Prop :=
  ∀ key, warm.get? key = (cold.get? key).or (W.get? key)

namespace Warms

theorem start (W : Slots) : Warms W .empty W := fun _ => rfl

theorem insert (h : Warms W cold warm) (key : SchemaKey) (x : Slot) :
    Warms W (cold.insert key x) (warm.insert key x) := by
  intro k
  rw [OrderedMap.get?_insert, OrderedMap.get?_insert]
  split
  · rfl
  · exact h k

theorem draws (h : Warms W cold warm) (hd : Draws W cold cold') : Warms W cold' warm := by
  intro k
  rw [h k]
  rcases hd k with he | ⟨hnone, he⟩
  · rw [he]
  · rw [hnone, he, Option.none_or, Option.or_self]

theorem contains_eq (h : Warms W cold warm) (key : SchemaKey) :
    warm.contains key = (cold.contains key || W.contains key) := by
  rw [OrderedMap.contains, h key, OrderedMap.contains, OrderedMap.contains, Option.isSome_or]

theorem empty_of_new (h : Warms W cold warm) (hc : cold.contains key = false)
    (hkey : ¬ W.contains key = true) : warm.contains key = false := by
  rw [Bool.not_eq_true] at hkey
  rw [h.contains_eq, hc, hkey, Bool.false_or]

end Warms

/-- The same failure, or slots that differ only in what was there before. -/
def SameOutcome (W : Slots) : Except ApiError Slots → Except ApiError Slots → Prop
  | .ok cold, .ok warm => Warms W cold warm
  | .error e, .error e' => e = e'
  | _, _ => False

namespace SameOutcome

variable {e : ApiError} {r₁ : Except ApiError Slots}

theorem eq_of_error (h : SameOutcome W (.error e) r₁) : r₁ = .error e := by
  cases r₁ with
  | ok _ => exact h.elim
  | error e' => exact congrArg Except.error (Eq.symm h)

theorem error_of_eq (h : SameOutcome W r₁ (.error e)) : r₁ = .error e := by
  cases r₁ with
  | ok _ => exact h.elim
  | error e' => exact congrArg Except.error h

theorem ok_of_ok (h : SameOutcome W (.ok cold) r₁) : ∃ warm, r₁ = .ok warm ∧ Warms W cold warm := by
  cases r₁ with
  | ok warm => exact ⟨warm, rfl, h⟩
  | error e' => exact h.elim

theorem ok_of_eq (h : SameOutcome W r₁ (.ok warm)) : ∃ cold, r₁ = .ok cold ∧ Warms W cold warm := by
  cases r₁ with
  | ok cold => exact ⟨cold, rfl, h⟩
  | error e' => exact h.elim

end SameOutcome

theorem cold_of_warm (hW : SettledOn rules c W) (h : Fills c warm keys r) :
    (∀ k ∈ keys, k.rules = rules) → ∀ cold, Warms W cold warm →
      ∃ r', Fills c cold keys r' ∧ SameOutcome W r' r := by
  induction h with
  | nil => exact fun _ cold hw => ⟨.ok cold, .nil, hw⟩
  | @known warm key keys r hc _ ih =>
    intro hkeys cold hw
    obtain ⟨hrules, hrest⟩ := List.forall_mem_cons.mp hkeys
    by_cases hcold : cold.contains key = true
    · obtain ⟨r', hf, hr⟩ := ih hrest cold hw
      exact ⟨r', .known hcold hf, hr⟩
    · have hkey : W.contains key = true := by
        rw [hw.contains_eq, Bool.or_eq_true] at hc
        exact hc.resolve_left hcold
      obtain ⟨cold', hf, hd⟩ := fills_of_settled hW hrules hkey cold
      obtain ⟨r', hf', hr⟩ := ih hrest cold' (hw.draws hd)
      exact ⟨r', hf.append cold' rfl hf', hr⟩
  | @needFails warm key keys e fuel hc _ ih =>
    intro hkeys cold hw
    rw [hw.contains_eq, Bool.or_eq_false_iff] at hc
    obtain ⟨r', hf, hr⟩ := ih (needs_rules fuel hkeys) _ (hw.insert key .building)
    rw [hr.error_of_eq] at hf
    exact ⟨_, .needFails fuel hc.1 hf, rfl⟩
  | @fails warm warm₁ key keys e fuel hc _ ho he ih =>
    intro hkeys cold hw
    rw [hw.contains_eq, Bool.or_eq_false_iff] at hc
    obtain ⟨r', hf, hr⟩ := ih (needs_rules fuel hkeys) _ (hw.insert key .building)
    cases r' with
    | ok cold₁ => exact ⟨_, .fails fuel hc.1 hf ho he, rfl⟩
    | error e' => exact hr.elim
  | @fills warm warm₁ key keys r s fuel hc _ ho _ ihNeeds ihRest =>
    intro hkeys cold hw
    rw [hw.contains_eq, Bool.or_eq_false_iff] at hc
    obtain ⟨r', hf, hr⟩ := ihNeeds (needs_rules fuel hkeys) _ (hw.insert key .building)
    cases r' with
    | error e' => exact hr.elim
    | ok cold₁ =>
      obtain ⟨r'', hf', hr'⟩ :=
        ihRest (List.forall_mem_cons.mp hkeys).2 _ (Warms.insert hr key (.done s))
      exact ⟨r'', .fills fuel hc.1 hf ho hf', hr'⟩

/-- What is filled from the start is compiled on any settled slots, and the fuel that is enough for
it does not depend on what they are. -/
theorem Fills.slotsAfter_warm (h : Fills c cold keys r) : (∀ k ∈ keys, k.rules = rules) →
    ∃ n, ∀ fuel ≥ n, ∀ W, SettledOn rules c W → ∀ s : Repository, Warms W cold s.slots →
      SameOutcome W r ((keys.forM (ensure c fuel)).slotsAfter s) := by
  induction h with
  | nil => exact fun _ => ⟨0, fun fuel _ W _ s hw => hw⟩
  | @known cold key keys r hc _ ih =>
    intro hkeys
    obtain ⟨n, ih⟩ := ih (List.forall_mem_cons.mp hkeys).2
    refine ⟨n, fun fuel hfuel W hW s hw => ?_⟩
    have hwarm : s.slots.contains key = true := by rw [hw.contains_eq, hc, Bool.true_or]
    rw [forM_cons, slotsAfter, bind_of_ok (ensure_of_contains c fuel hwarm)]
    exact ih fuel hfuel W hW s hw
  | @needFails cold key keys e fuel₀ hc hneeds ih =>
    intro hkeys
    obtain ⟨n, ih⟩ := ih (needs_rules fuel₀ hkeys)
    refine ⟨max n fuel₀ + 1, fun fuel hfuel W hW s hw => ?_⟩
    obtain ⟨m, rfl⟩ : ∃ m, fuel = m + 1 := ⟨fuel - 1, by omega⟩
    by_cases hkey : W.contains key = true
    · obtain ⟨cold', hf, -⟩ := fills_of_settled hW (hkeys key List.mem_cons_self) hkey cold
      cases hf.unique (.needFails fuel₀ hc hneeds)
    · have hwarm := hw.empty_of_new hc hkey
      have hneeds := (ih m (by omega) W hW (s.install key .building)
        (hw.insert key .building)).eq_of_error
      rw [slotsAfter_forM_of_error (slotsAfter_ensure_of_need hwarm (by omega) hneeds)]
      rfl
  | @fails cold cold₁ key keys e fuel₀ hc hneeds ho he ih =>
    intro hkeys
    obtain ⟨n, ih⟩ := ih (needs_rules fuel₀ hkeys)
    refine ⟨max n fuel₀ + 1, fun fuel hfuel W hW s hw => ?_⟩
    obtain ⟨m, rfl⟩ : ∃ m, fuel = m + 1 := ⟨fuel - 1, by omega⟩
    by_cases hkey : W.contains key = true
    · obtain ⟨cold', hf, -⟩ := fills_of_settled hW (hkeys key List.mem_cons_self) hkey cold
      cases hf.unique (.fails fuel₀ hc hneeds ho he)
    · have hwarm := hw.empty_of_new hc hkey
      obtain ⟨warm₁, hneeds, -⟩ := (ih m (by omega) W hW (s.install key .building)
        (hw.insert key .building)).ok_of_ok
      have hstep := slotsAfter_ensure_of_outcome hwarm (by omega)
        (by rw [ho]; exact fun h => he (Except.error.inj h)) hneeds
      rw [ho] at hstep
      rw [slotsAfter_forM_of_error hstep]
      rfl
  | @fills cold cold₁ key keys r a fuel₀ hc hneeds ho _ ihNeeds ihRest =>
    intro hkeys
    obtain ⟨n, ihNeeds⟩ := ihNeeds (needs_rules fuel₀ hkeys)
    obtain ⟨n', ihRest⟩ := ihRest (List.forall_mem_cons.mp hkeys).2
    refine ⟨max (max n n') fuel₀ + 1, fun fuel hfuel W hW s hw => ?_⟩
    obtain ⟨m, rfl⟩ : ∃ m, fuel = m + 1 := ⟨fuel - 1, by omega⟩
    by_cases hkey : W.contains key = true
    · obtain ⟨cold', hf, hd⟩ := fills_of_settled hW (hkeys key List.mem_cons_self) hkey cold
      cases hf.unique (.fills fuel₀ hc hneeds ho .nil)
      have hwarm : s.slots.contains key = true := by rw [hw.contains_eq, hkey, Bool.or_true]
      rw [forM_cons, slotsAfter, bind_of_ok (ensure_of_contains c (m + 1) hwarm)]
      exact ihRest (m + 1) (by omega) W hW s (hw.draws hd)
    · have hwarm := hw.empty_of_new hc hkey
      obtain ⟨warm₁, hneeds, hw₁⟩ := (ihNeeds m (by omega) W hW (s.install key .building)
        (hw.insert key .building)).ok_of_ok
      have hstep := slotsAfter_ensure_of_outcome hwarm (by omega) (by rw [ho]; simp) hneeds
      rw [ho] at hstep
      obtain ⟨t, ht, hslots⟩ := result_of_slotsAfter_ok hstep
      rw [forM_cons, slotsAfter, bind_of_ok ht]
      refine ihRest (m + 1) (by omega) W hW t ?_
      rw [hslots]
      exact hw₁.insert key (.done a)

theorem SameOutcome.ne_outOfFuel {r' : Except ApiError Slots} (h : SameOutcome W r r')
    (hr : r ≠ .error .outOfFuel) : r' ≠ .error .outOfFuel := by
  rintro rfl
  exact hr h.error_of_eq

theorem warm_of_cold (hW : SettledOn rules c W) (h : Fills c cold keys r)
    (hkeys : ∀ k ∈ keys, k.rules = rules) (warm : Slots) (hw : Warms W cold warm) :
    ∃ r', Fills c warm keys r' ∧ SameOutcome W r r' := by
  obtain ⟨n, hn⟩ := h.slotsAfter_warm hkeys
  have hsame := hn n (Nat.le_refl n) W hW { slots := warm } hw
  exact ⟨_, fillsOrStops c n keys _ _ rfl (hsame.ne_outOfFuel h.ne_outOfFuel), hsame⟩

end ServiceApi
