import Mathlib.Data.List.Nodup
import ServiceApi.Catalog.Properties
import ServiceApi.Proofs.Document.Schemas

/-! # The superclass chain

A type, its superclass in the view of the type, the superclass of that, and so on: up to `Object`,
to a class without superclass or not known, or to a type met before. Given fuel for each type the
chain is found, and what is found is the chain. -/

namespace ServiceApi.Catalog

variable {c : Catalog} {visited chain : List TypeExpr} {t next : TypeExpr}

/-- What `next` is if the chain does not go on to it. -/
def StopsAt (met : List TypeExpr) (next : TypeExpr) : Prop :=
  next.rawName? = some objectName ∨ next ∈ met

/-- `chain` leads from `t` from superclass to superclass, as far as there is one to go on to; the
types in `visited` have been met before. -/
structure Climbs (c : Catalog) (visited : List TypeExpr) (t : TypeExpr)
    (chain : List TypeExpr) : Prop where
  starts : chain.head? = some t
  steps : chain.IsChain fun s next => c.superclass? s = some next
  goesOn : ∀ s ∈ chain.tail, ¬ StopsAt visited s
  distinct : chain.Nodup
  ends : ∀ last ∈ chain.getLast?, ∀ next ∈ c.superclass? last, StopsAt (visited ++ chain) next

theorem Climbs.exists_cons (h : c.Climbs visited t chain) : ∃ rest, chain = t :: rest := by
  cases chain with
  | nil => cases h.starts
  | cons s rest => exact ⟨rest, by rw [Option.some.inj h.starts]⟩

/-- At a type that ends the chain. -/
theorem climbs_iff_of_stops (hstop : ∀ next ∈ c.superclass? t, StopsAt (t :: visited) next) :
    c.Climbs visited t chain ↔ chain = [t] := by
  constructor
  · intro h
    obtain ⟨rest, rfl⟩ := h.exists_cons
    cases rest with
    | nil => rfl
    | cons s rest =>
      have hs : c.superclass? t = some s := (List.isChain_cons_cons.mp h.steps).1
      have hnew : s ≠ t := fun heq => (List.nodup_cons.mp h.distinct).1 (heq ▸ List.mem_cons_self)
      rcases hstop s hs with hobject | hmet
      · exact absurd (Or.inl hobject) (h.goesOn s List.mem_cons_self)
      · exact absurd (Or.inr (List.mem_of_ne_of_mem hnew hmet)) (h.goesOn s List.mem_cons_self)
  · intro h
    subst h
    refine ⟨rfl, .singleton t, nofun, List.nodup_singleton t, ?_⟩
    intro last hlast next hnext
    cases hlast
    exact (hstop next hnext).imp_right fun hmet => by simpa [or_comm] using hmet

/-- At a type whose superclass has not been met. -/
theorem climbs_iff_of_goes (hnext : c.superclass? t = some next)
    (hgo : ¬ StopsAt (t :: visited) next) :
    c.Climbs visited t chain ↔ ∃ rest, chain = t :: rest ∧ c.Climbs (t :: visited) next rest := by
  constructor
  · intro h
    obtain ⟨rest, rfl⟩ := h.exists_cons
    refine ⟨rest, rfl, ?_⟩
    cases rest with
    | nil =>
      -- A chain that ended here would stop at `next`.
      refine absurd ((h.ends t rfl next hnext).imp_right fun hmet => ?_) hgo
      simpa [or_comm] using hmet
    | cons s rest =>
      obtain ⟨hs, hsteps⟩ := List.isChain_cons_cons.mp h.steps
      obtain ⟨hfresh, hdistinct⟩ := List.nodup_cons.mp h.distinct
      have hstart : s = next := Option.some.inj (hs.symm.trans hnext)
      refine ⟨congrArg some hstart, hsteps, fun u hu hstop => ?_, hdistinct,
        fun last hlast up hup => ?_⟩
      · have hmem : u ∈ s :: rest := List.mem_cons_of_mem s hu
        rcases hstop with hobject | hmet
        · exact h.goesOn u hmem (Or.inl hobject)
        · rcases List.mem_cons.mp hmet with rfl | hmet
          · exact hfresh hmem
          · exact h.goesOn u hmem (Or.inr hmet)
      · refine (h.ends last ?_ up hup).imp_right fun hmet => ?_
        · rwa [List.getLast?_cons_cons]
        · simpa [or_comm, or_left_comm, or_assoc] using hmet
  · intro h
    obtain ⟨rest, rfl, h⟩ := h
    obtain ⟨above, rfl⟩ := h.exists_cons
    have hfresh : ∀ s ∈ next :: above, ¬ StopsAt (t :: visited) s :=
      List.forall_mem_cons.mpr ⟨hgo, h.goesOn⟩
    refine ⟨rfl, .cons_cons hnext h.steps, fun s hs hstop => ?_, ?_, fun last hlast up hup => ?_⟩
    · exact hfresh s hs (hstop.imp_right (List.mem_cons_of_mem t))
    · exact List.nodup_cons.mpr ⟨fun hmem => hfresh t hmem (Or.inr List.mem_cons_self), h.distinct⟩
    · rw [List.getLast?_cons_cons] at hlast
      refine (h.ends last hlast up hup).imp_right fun hmet => ?_
      simpa [or_comm, or_left_comm, or_assoc] using hmet

theorem superclassChain_of_stops (fuel : Nat)
    (hstop : ∀ next ∈ c.superclass? t, StopsAt (t :: visited) next) :
    c.superclassChain (fuel + 1) visited t = .ok [t] := by
  unfold superclassChain
  cases hnext : c.superclass? t with
  | none => rfl
  | some next =>
    exact if_pos (by simpa [StopsAt] using hstop next hnext)

theorem superclassChain_of_goes (fuel : Nat) (hnext : c.superclass? t = some next)
    (hgo : ¬ StopsAt (t :: visited) next) : c.superclassChain (fuel + 1) visited t =
      (do return t :: (← c.superclassChain fuel (t :: visited) next)) := by
  have hgo : ¬ (next.rawName? == some objectName || (t :: visited).contains next) = true := by
    simpa [StopsAt] using hgo
  rw [superclassChain, hnext]
  exact if_neg hgo

/-- With fuel for every type of it the chain is found, and nothing else is. -/
theorem superclassChain_eq_ok_iff {fuel : Nat} : c.superclassChain fuel visited t = .ok chain ↔
    c.Climbs visited t chain ∧ chain.length ≤ fuel := by
  induction fuel generalizing visited t chain with
  | zero =>
    constructor
    · intro h
      cases h
    · intro h
      obtain ⟨rest, rfl⟩ := h.1.exists_cons
      cases h.2
  | succ fuel ih =>
    by_cases hstop : ∀ next ∈ c.superclass? t, StopsAt (t :: visited) next
    · rw [superclassChain_of_stops fuel hstop, climbs_iff_of_stops hstop, Except.ok.injEq]
      constructor
      · intro h
        subst h
        exact ⟨rfl, Nat.succ_le_succ (Nat.zero_le fuel)⟩
      · intro h
        exact h.1.symm
    · obtain ⟨next, hnext, hgo⟩ : ∃ next, c.superclass? t = some next ∧
          ¬ StopsAt (t :: visited) next := by
        simpa using hstop
      rw [superclassChain_of_goes fuel hnext hgo, climbs_iff_of_goes hnext hgo]
      constructor
      · intro h
        obtain ⟨rest, hrest, h⟩ := ok_of_bind h
        cases h
        obtain ⟨hclimbs, hle⟩ := ih.mp hrest
        exact ⟨⟨rest, rfl, hclimbs⟩, Nat.succ_le_succ hle⟩
      · intro h
        obtain ⟨⟨rest, rfl, hclimbs⟩, hle⟩ := h
        rw [ih.mpr ⟨hclimbs, Nat.le_of_succ_le_succ hle⟩]
        rfl

end ServiceApi.Catalog
