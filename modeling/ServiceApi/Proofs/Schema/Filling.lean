import ServiceApi.Proofs.Schema.Ensure

/-! # Filling slots, depth first

The traversal without fuel and without what is written down: keys that have a slot are passed over,
and a placeholder stands for a key until its needs are filled. Compiling with some fuel is filling,
unless the fuel runs out; and what is filled, enough fuel compiles. So a filling has one result. -/

namespace ServiceApi

open Schema

/-- Filling `keys` one after the other leads from some slots to others, or to a failure. -/
inductive Fills (c : Catalog) : Slots → List SchemaKey → Except ApiError Slots → Prop
  | nil {slots : Slots} : Fills c slots [] (.ok slots)
  | known {slots : Slots} {key : SchemaKey} {keys : List SchemaKey} {r : Except ApiError Slots} :
      slots.contains key = true → Fills c slots keys r → Fills c slots (key :: keys) r
  | needFails {slots : Slots} {key : SchemaKey} {keys : List SchemaKey} {e : ApiError}
      (fuel : Nat) : slots.contains key = false →
      Fills c (slots.insert key .building) (planOf c fuel key).needs (.error e) →
      Fills c slots (key :: keys) (.error e)
  | fails {slots slots' : Slots} {key : SchemaKey} {keys : List SchemaKey} {e : ApiError}
      (fuel : Nat) : slots.contains key = false →
      Fills c (slots.insert key .building) (planOf c fuel key).needs (.ok slots') →
      (planOf c fuel key).outcome = .error e → e ≠ .outOfFuel →
        Fills c slots (key :: keys) (.error e)
  | fills {slots slots' : Slots} {key : SchemaKey} {keys : List SchemaKey}
      {r : Except ApiError Slots} {s : Compiled} (fuel : Nat) : slots.contains key = false →
      Fills c (slots.insert key .building) (planOf c fuel key).needs (.ok slots') →
      (planOf c fuel key).outcome = .ok s → Fills c (slots'.insert key (.done s)) keys r →
      Fills c slots (key :: keys) r

namespace Compile

variable {f : SchemaKey → Compile Unit} {key : SchemaKey} {keys keys' : List SchemaKey}
  {s : Repository} {slots : Slots} {r : Except ApiError Slots} {e : ApiError}

theorem slotsAfter_forM_of_ok (h : (f key).slotsAfter s = .ok slots)
    (hr : ∀ t : Repository, t.slots = slots → (keys.forM f).slotsAfter t = r) :
    ((key :: keys).forM f).slotsAfter s = r := by
  obtain ⟨t, ht, hslots⟩ := result_of_slotsAfter_ok h
  rw [forM_cons, slotsAfter, bind_of_ok ht]
  exact hr t hslots

theorem slotsAfter_forM_of_error (h : (f key).slotsAfter s = .error e) :
    ((key :: keys).forM f).slotsAfter s = .error e := by
  obtain ⟨t, ht⟩ := result_of_slotsAfter_error h
  exact slotsAfter_of_error (bind_of_error ht)

theorem slotsAfter_forM_of_extend (h : keys <+: keys')
    (he : (keys.forM f).slotsAfter s = .error e) : (keys'.forM f).slotsAfter s = .error e := by
  obtain ⟨rest, rfl⟩ := h
  obtain ⟨t, ht⟩ := result_of_slotsAfter_error he
  have happ : (keys ++ rest).forM f = keys.forM f >>= fun _ => rest.forM f := List.forM_append
  rw [happ]
  exact slotsAfter_of_error (bind_of_error ht)

end Compile

open Compile

variable {c : Catalog} {slots slots' : Slots} {key : SchemaKey} {keys : List SchemaKey}
  {r r' : Except ApiError Slots}

/-! ## Compiling is filling -/

/-- Compiling `keys` fills them, unless it runs out of fuel. -/
def FillsOrStops (c : Catalog) (fuel : Nat) (keys : List SchemaKey) : Prop :=
  ∀ (s : Repository) (r : Except ApiError Slots), (keys.forM (ensure c fuel)).slotsAfter s = r →
    r ≠ .error .outOfFuel → Fills c s.slots keys r

namespace FillsOrStops

variable {fuel : Nat}

theorem nil : FillsOrStops c fuel [] := by
  intro s r h _
  cases h
  exact .nil

/-- A key with a slot needs nothing, so only empty slots remain to be looked at. -/
theorem cons (hrest : FillsOrStops c fuel keys)
    (hempty : ∀ (s : Repository) (r : Except ApiError Slots), s.slots.contains key = false →
      ((key :: keys).forM (ensure c fuel)).slotsAfter s = r → r ≠ .error .outOfFuel →
      Fills c s.slots (key :: keys) r) : FillsOrStops c fuel (key :: keys) := by
  intro s r h hr
  by_cases hc : s.slots.contains key = true
  · rw [forM_cons, slotsAfter, bind_of_ok (ensure_of_contains c fuel hc)] at h
    exact .known hc (hrest s r h hr)
  · exact hempty s r (by simpa using hc) h hr

theorem cons_zero (hrest : FillsOrStops c 0 keys) : FillsOrStops c 0 (key :: keys) := by
  refine hrest.cons fun s r hc h hr => ?_
  rw [forM_cons, slotsAfter, bind_of_error (ensure_zero c hc)] at h
  exact absurd h.symm hr

theorem cons_succ (hneeds : FillsOrStops c fuel (planOf c fuel key).needs)
    (hrest : FillsOrStops c (fuel + 1) keys) : FillsOrStops c (fuel + 1) (key :: keys) := by
  refine hrest.cons fun s r hc h hr => ?_
  have hstep := slotsAfter_ensure_succ c fuel hc
  have hneeds := hneeds (s.install key .building) _ rfl
  cases hn : ((planOf c fuel key).needs.forM (ensure c fuel)).slotsAfter
      (s.install key .building) with
  | error e =>
    rw [hn] at hstep hneeds
    rw [slotsAfter_forM_of_error hstep] at h
    subst h
    exact .needFails fuel hc (hneeds hr)
  | ok slots' =>
    rw [hn] at hstep hneeds
    cases ho : (planOf c fuel key).outcome with
    | error e =>
      rw [ho] at hstep
      rw [slotsAfter_forM_of_error hstep] at h
      subst h
      exact .fails fuel hc (hneeds (by simp)) ho fun he => hr (congrArg Except.error he)
    | ok a =>
      rw [ho] at hstep
      obtain ⟨t, ht, hslots⟩ := result_of_slotsAfter_ok hstep
      rw [forM_cons, slotsAfter, bind_of_ok ht] at h
      have hrest := hrest t r h hr
      rw [hslots] at hrest
      exact .fills fuel hc (hneeds (by simp)) ho hrest

end FillsOrStops

theorem fillsOrStops (c : Catalog) (fuel : Nat) : ∀ keys, FillsOrStops c fuel keys := by
  induction fuel with
  | zero =>
    intro keys
    induction keys with
    | nil => exact .nil
    | cons key keys ih => exact ih.cons_zero
  | succ fuel ihFuel =>
    intro keys
    induction keys with
    | nil => exact .nil
    | cons key keys ih => exact .cons_succ (ihFuel _) ih

section MoreFuel

variable {fuel m : Nat} {s : Repository} {e : ApiError}

/-- Where a need fails that a plan asks for with less fuel, its key fails. -/
theorem slotsAfter_ensure_of_need (hc : s.slots.contains key = false) (hle : fuel ≤ m)
    (hneeds : ((planOf c fuel key).needs.forM (ensure c m)).slotsAfter (s.install key .building) =
      .error e) : (ensure c (m + 1) key).slotsAfter s = .error e := by
  have hall := slotsAfter_forM_of_extend (planOf_cutShort c hle key).needs_extend hneeds
  rw [slotsAfter_ensure_succ c m hc, hall]
  rfl

/-- Where the needs are met of a plan that does not run out of fuel, its key comes to its
outcome. -/
theorem slotsAfter_ensure_of_outcome (hc : s.slots.contains key = false) (hle : fuel ≤ m)
    (ho : (planOf c fuel key).outcome ≠ .error .outOfFuel)
    (hneeds : ((planOf c fuel key).needs.forM (ensure c m)).slotsAfter (s.install key .building) =
      .ok slots) :
    (ensure c (m + 1) key).slotsAfter s =
      (planOf c fuel key).outcome.map fun a => slots.insert key (.done a) := by
  have hplan := (planOf_cutShort c hle key).eq_of_ne ho
  rw [slotsAfter_ensure_succ c m hc, ← hplan, hneeds]
  rfl

end MoreFuel

namespace Fills

/-- Enough fuel compiles what is filled. -/
theorem slotsAfter_eq (h : Fills c slots keys r) : ∃ n, ∀ fuel ≥ n, ∀ s : Repository,
    s.slots = slots → (keys.forM (ensure c fuel)).slotsAfter s = r := by
  induction h with
  | nil => exact ⟨0, fun fuel _ s hs => congrArg Except.ok hs⟩
  | known hc _ ih =>
    obtain ⟨n, ih⟩ := ih
    refine ⟨n, fun fuel hfuel s hs => ?_⟩
    rw [← hs] at hc
    rw [forM_cons, slotsAfter, bind_of_ok (ensure_of_contains c fuel hc)]
    exact ih fuel hfuel s hs
  | @needFails slots key keys e fuel₀ hc _ ih =>
    obtain ⟨n, ih⟩ := ih
    refine ⟨max n fuel₀ + 1, fun fuel hfuel s hs => ?_⟩
    obtain ⟨m, rfl⟩ : ∃ m, fuel = m + 1 := ⟨fuel - 1, by omega⟩
    subst hs
    exact slotsAfter_forM_of_error <| slotsAfter_ensure_of_need hc (by omega) <|
      ih m (by omega) (s.install key .building) rfl
  | @fails slots slots' key keys e fuel₀ hc _ ho he ih =>
    obtain ⟨n, ih⟩ := ih
    refine ⟨max n fuel₀ + 1, fun fuel hfuel s hs => ?_⟩
    obtain ⟨m, rfl⟩ : ∃ m, fuel = m + 1 := ⟨fuel - 1, by omega⟩
    subst hs
    have hneeds := ih m (by omega) (s.install key .building) rfl
    have hstep := slotsAfter_ensure_of_outcome hc (by omega)
      (by rw [ho]; exact fun h => he (Except.error.inj h)) hneeds
    rw [ho] at hstep
    exact slotsAfter_forM_of_error hstep
  | @fills slots slots' key keys r a fuel₀ hc _ ho _ ih ih' =>
    obtain ⟨n, ih⟩ := ih
    obtain ⟨n', ih'⟩ := ih'
    refine ⟨max (max n n') fuel₀ + 1, fun fuel hfuel s hs => ?_⟩
    obtain ⟨m, rfl⟩ : ∃ m, fuel = m + 1 := ⟨fuel - 1, by omega⟩
    subst hs
    have hneeds := ih m (by omega) (s.install key .building) rfl
    have hstep := slotsAfter_ensure_of_outcome hc (by omega) (by rw [ho]; simp) hneeds
    rw [ho] at hstep
    exact slotsAfter_forM_of_ok hstep (ih' (m + 1) (by omega))

theorem ne_outOfFuel (h : Fills c slots keys r) : r ≠ .error .outOfFuel := by
  induction h with
  | nil => simp
  | known _ _ ih => exact ih
  | needFails _ _ _ ih => exact ih
  | fails _ _ _ _ he => exact fun h => he (by cases h; rfl)
  | fills _ _ _ _ _ _ ih => exact ih

theorem unique (h : Fills c slots keys r) (h' : Fills c slots keys r') : r = r' := by
  obtain ⟨n, hn⟩ := h.slotsAfter_eq
  obtain ⟨n', hn'⟩ := h'.slotsAfter_eq
  have hr := hn (max n n') (by omega) { slots } rfl
  exact hr.symm.trans (hn' (max n n') (by omega) { slots } rfl)

end Fills

end ServiceApi
