import ServiceApi.Proofs.Compile

/-! # Two runs of one piece of work

Work that is done on two repositories side by side. What it answers on one it answers on the other,
as long as the repositories stand in a relation, which it keeps. Fuel only cuts work short, and the
two runs may need different amounts of it. -/

namespace ServiceApi.Compile

variable {α β : Type} {A : Repository → Repository → Prop} {C C' : Repository → Prop}

/-- What `m` answers on one of two repositories that `A` relates it answers on the other, with
enough fuel, if the left one ends in `C`; it ends the same way in any case. How much is enough on
the right does not depend on the repository. -/
structure Mirrors (A : Repository → Repository → Prop) (C : Repository → Prop)
    (m : Nat → Compile α) : Prop where
  forth : ∀ s fuel r u, (m fuel).result s = (r, u) → r ≠ .error .outOfFuel → C u →
    ∃ n, ∀ fuel' ≥ n, ∀ t, A s t → ∃ v, (m fuel').result t = (r, v) ∧ A u v
  back : ∀ s t, A s t → ∀ fuel r v, (m fuel).result t = (r, v) → r ≠ .error .outOfFuel →
    ∃ u, A u v ∧ (∃ n, ∀ fuel' ≥ n, ((m fuel').result s).2 = u) ∧
      (C u → ∃ n, ∀ fuel' ≥ n, (m fuel').result s = (r, u))

namespace Mirrors

theorem weaken {m : Nat → Compile α} (h : Mirrors A C m) (hC : ∀ u, C' u → C u) :
    Mirrors A C' m := by
  refine ⟨fun s fuel r u hu hr hu' => h.forth s fuel r u hu hr (hC u hu'),
    fun s t hA fuel r v hv hr => ?_⟩
  obtain ⟨u, hA', hend, hsame⟩ := h.back s t hA fuel r v hv hr
  exact ⟨u, hA', hend, fun hu => hsame (hC u hu)⟩

theorem ofExcept (r : Except ApiError α) : Mirrors A C fun _ => ofExcept r := by
  refine ⟨fun s fuel r' u h _ _ => ?_, fun s t hA fuel r' v h _ => ?_⟩
  · cases h
    exact ⟨0, fun _ _ t hA => ⟨t, rfl, hA⟩⟩
  · cases h
    exact ⟨s, hA, ⟨0, fun _ _ => rfl⟩, fun _ => ⟨0, fun _ _ => rfl⟩⟩

theorem pure (a : α) : Mirrors A C fun _ => pure a := ofExcept (.ok a)

theorem bind {m : Nat → Compile α} {f : Nat → α → Compile β} (hm : Mirrors A (fun _ => True) m)
    (hf : ∀ a, Mirrors A C fun fuel => f fuel a) : Mirrors A C fun fuel => m fuel >>= f fuel := by
  refine ⟨fun s fuel r u h hr hC => ?_, fun s t hA fuel r v h hr => ?_⟩
  · rcases hfirst : (m fuel).result s with ⟨a | a, s₁⟩
    · cases (bind_of_error hfirst).symm.trans h
      have ha : (Except.error a : Except ApiError α) ≠ .error .outOfFuel :=
        fun he => hr (by cases he; rfl)
      obtain ⟨n, hn⟩ := hm.forth s fuel _ _ hfirst ha trivial
      refine ⟨n, fun fuel' hfuel t hA => ?_⟩
      obtain ⟨v, hv, hA'⟩ := hn fuel' hfuel t hA
      exact ⟨v, bind_of_error hv, hA'⟩
    · have hrest := (bind_of_ok hfirst).symm.trans h
      obtain ⟨n, hn⟩ := hm.forth s fuel _ _ hfirst (by simp) trivial
      obtain ⟨n', hn'⟩ := (hf a).forth s₁ fuel r u hrest hr hC
      refine ⟨max n n', fun fuel' hfuel t hA => ?_⟩
      obtain ⟨t₁, ht₁, hA₁⟩ := hn fuel' (by omega) t hA
      obtain ⟨v, hv, hA'⟩ := hn' fuel' (by omega) t₁ hA₁
      exact ⟨v, (bind_of_ok ht₁).trans hv, hA'⟩
  · rcases hfirst : (m fuel).result t with ⟨a | a, t₁⟩
    · cases (bind_of_error hfirst).symm.trans h
      have ha : (Except.error a : Except ApiError α) ≠ .error .outOfFuel :=
        fun he => hr (by cases he; rfl)
      obtain ⟨u, hA', -, hsame⟩ := hm.back s t hA fuel _ _ hfirst ha
      obtain ⟨n, hn⟩ := hsame trivial
      exact ⟨u, hA', ⟨n, fun fuel' hfuel => congrArg Prod.snd (bind_of_error (hn fuel' hfuel))⟩,
        fun _ => ⟨n, fun fuel' hfuel => bind_of_error (hn fuel' hfuel)⟩⟩
    · have hrest := (bind_of_ok hfirst).symm.trans h
      obtain ⟨s₁, hA₁, -, hsame₁⟩ := hm.back s t hA fuel _ _ hfirst (by simp)
      obtain ⟨n, hn⟩ := hsame₁ trivial
      obtain ⟨u, hA', ⟨n', hn'⟩, hsame⟩ := (hf a).back s₁ t₁ hA₁ fuel r v hrest hr
      refine ⟨u, hA', ⟨max n n', fun fuel' hfuel => ?_⟩, fun hC => ?_⟩
      · rw [bind_of_ok (hn fuel' (by omega))]
        exact hn' fuel' (by omega)
      · obtain ⟨n'', hn''⟩ := hsame hC
        exact ⟨max n n'', fun fuel' hfuel =>
          (bind_of_ok (hn fuel' (by omega))).trans (hn'' fuel' (by omega))⟩

theorem map {m : Nat → Compile α} (f : α → β) (h : Mirrors A C m) :
    Mirrors A C fun fuel => do return f (← m fuel) := by
  -- The answer alone is another one.
  have hresult (fuel : Nat) (s : Repository) : (do return f (← m fuel) : Compile β).result s =
      (((m fuel).result s).1.map f, ((m fuel).result s).2) := by
    rw [result_bind]
    rcases (m fuel).result s with ⟨a | a, s₁⟩ <;> rfl
  have hfuel {r : Except ApiError α} (hr : r.map f ≠ .error .outOfFuel) : r ≠ .error .outOfFuel :=
    fun he => hr (by rw [he]; rfl)
  refine ⟨fun s fuel r u hu hr hC => ?_, fun s t hA fuel r v hv hr => ?_⟩
  · rcases hfirst : (m fuel).result s with ⟨r₁, s₁⟩
    rw [hresult, hfirst] at hu
    cases hu
    obtain ⟨n, hn⟩ := h.forth s fuel r₁ s₁ hfirst (hfuel hr) hC
    refine ⟨n, fun fuel' hfuel' t hA => ?_⟩
    obtain ⟨v, hv, hA'⟩ := hn fuel' hfuel' t hA
    exact ⟨v, by rw [hresult, hv], hA'⟩
  · rcases hfirst : (m fuel).result t with ⟨r₁, t₁⟩
    rw [hresult, hfirst] at hv
    cases hv
    obtain ⟨u, hA', ⟨n, hn⟩, hsame⟩ := h.back s t hA fuel r₁ t₁ hfirst (hfuel hr)
    refine ⟨u, hA', ⟨n, fun fuel' hfuel' => ?_⟩, fun hC => ?_⟩
    · rw [hresult, hn fuel' hfuel']
    · obtain ⟨n', hn'⟩ := hsame hC
      exact ⟨n', fun fuel' hfuel' => by rw [hresult, hn' fuel' hfuel']⟩

theorem mapM {f : Nat → α → Compile β} : ∀ {as : List α},
    (∀ a ∈ as, Mirrors A (fun _ => True) fun fuel => f fuel a) →
    Mirrors A (fun _ => True) fun fuel => as.mapM (f fuel)
  | [], _ => pure []
  | a :: as, hf => by
    simp only [List.mapM_cons]
    exact (hf a List.mem_cons_self).bind fun b =>
      (mapM fun a' ha' => hf a' (List.mem_cons_of_mem a ha')).map (b :: ·)

end Mirrors

end ServiceApi.Compile
