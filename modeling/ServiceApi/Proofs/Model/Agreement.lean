import ServiceApi.Proofs.Model.Reading

/-! # Readings that agree

Two readings agree up to a relation if both refuse what they read or both make results that are so
related. Readings are built from few parts, and each of them keeps agreement. Under a permutation
the values of a list have to be read in another order; that changes nothing, since a reading of a
JSON value leaves nothing behind. -/

namespace ServiceApi.Node

variable {α β γ δ : Type}

/-- Of JSON values both readings make nothing, or results that `R` relates. -/
def Agree (R : α → β → Prop) (r : Read α) (r' : Read β) : Prop :=
  ∀ left, Option.Rel (fun p q => R p.1 q.1 ∧ p.2 = q.2)
    ((r.run .json).run left) ((r'.run .json).run left)

/-- Of a JSON value `r` makes nothing. -/
def Refuses (r : Read α) : Prop := ∀ left, (r.run .json).run left = none

/-- The reading does not depend on how many aliases may be followed, and follows none. -/
def Decided (r : Read α) : Prop := Refuses r ∨ ∃ a, Returns r a

theorem run_bind (r : Read α) (f : α → Read β) (left : Nat) :
    ((r >>= f).run .json).run left =
      ((r.run .json).run left).bind (fun p => ((f p.1).run .json).run p.2) := rfl

namespace Refuses

theorem failure : Refuses (failure : Read α) := fun _ => rfl

theorem bind {r : Read α} (h : Refuses r) (f : α → Read β) : Refuses (r >>= f) := by
  intro left
  rw [run_bind, h left, Option.bind_none]

theorem of_returns {r : Read α} {a : α} {f : α → Read β} (h : Returns r a) (hf : Refuses (f a)) :
    Refuses (r >>= f) := by
  intro left
  rw [run_bind, h left, Option.bind_some]
  exact hf left

end Refuses

namespace Decided

theorem pure (a : α) : Decided (Pure.pure a : Read α) := .inr ⟨a, .pure a⟩

theorem failure : Decided (failure : Read α) := .inl .failure

theorem bind {r : Read α} {f : α → Read β} (h : Decided r) (hf : ∀ a, Decided (f a)) :
    Decided (r >>= f) := by
  obtain h | ⟨a, h⟩ := h
  · exact .inl (h.bind f)
  · obtain hf | ⟨b, hf⟩ := hf a
    · exact .inl (.of_returns h hf)
    · exact .inr ⟨b, h.bind hf⟩

theorem mapM {f : α → Read β} (h : ∀ a, Decided (f a)) : ∀ as : List α, Decided (as.mapM f)
  | [] => by
    rw [List.mapM_nil]
    exact .pure []
  | a :: as => by
    rw [List.mapM_cons]
    exact (h a).bind fun b => (mapM h as).bind fun bs => .pure (b :: bs)

theorem follow (n : Node) : Decided n.follow := by
  unfold Node.follow
  split
  · exact .inl fun left => by cases left <;> rfl
  · exact .inr ⟨_, .pure _⟩

theorem leaf (f : Node → Option α) (n : Node) : Decided (leaf f n) := by
  refine (Decided.follow n).bind fun n => ?_
  cases f n with
  | none => exact .failure
  | some a => exact .pure a

end Decided

/-- A list of which one value is refused is refused, whatever stands before that value. -/
theorem Refuses.mapM {f : α → Read β} (hf : ∀ a, Decided (f a)) {a : α} (h : Refuses (f a)) :
    ∀ {as : List α}, a ∈ as → Refuses (as.mapM f)
  | b :: as, ha => by
    rw [List.mapM_cons]
    obtain hb | ⟨b', hb⟩ := hf b
    · exact hb.bind _
    · have hne : a ≠ b := by
        rintro rfl
        exact Option.some_ne_none _ ((hb 0).symm.trans (h 0))
      refine .of_returns hb (Refuses.bind ?_ _)
      exact Refuses.mapM hf h ((List.mem_cons.mp ha).resolve_left hne)

theorem Returns.mapM_map {f : α → Read β} {g : α → β} {as : List α}
    (h : ∀ a ∈ as, Returns (f a) (g a)) : Returns (as.mapM f) (as.map g) :=
  .mapM (List.forall₂_map_right_iff.mpr (List.forall₂_same.mpr h))

namespace Agree

variable {R : α → β → Prop} {S : γ → δ → Prop}

theorem refl {R : α → α → Prop} (hR : ∀ a, R a a) (r : Read α) : Agree R r r := by
  intro left
  cases (r.run .json).run left with
  | none => exact .none
  | some p => exact .some ⟨hR p.1, rfl⟩

protected theorem rfl {r : Read α} : Agree Eq r r := refl (fun _ => Eq.refl _) r

theorem mono {R' : α → β → Prop} {r : Read α} {r' : Read β} (h : Agree R r r')
    (hR : ∀ a b, R a b → R' a b) : Agree R' r r' := by
  intro left
  generalize (r.run .json).run left = x, (r'.run .json).run left = y, h left = hxy
  cases hxy with
  | none => exact .none
  | some h => exact .some ⟨hR _ _ h.1, h.2⟩

theorem of_returns {r : Read α} {r' : Read β} {a : α} {b : β} (h : Returns r a)
    (h' : Returns r' b) (hR : R a b) : Agree R r r' := by
  intro left
  rw [h left, h' left]
  exact .some ⟨hR, rfl⟩

theorem of_refuses {r : Read α} {r' : Read β} (h : Refuses r) (h' : Refuses r') : Agree R r r' := by
  intro left
  rw [h left, h' left]
  exact .none

theorem bind {r : Read α} {r' : Read β} {f : α → Read γ} {f' : β → Read δ} (h : Agree R r r')
    (hf : ∀ a b, R a b → Agree S (f a) (f' b)) : Agree S (r >>= f) (r' >>= f') := by
  intro left
  rw [run_bind, run_bind]
  generalize (r.run .json).run left = x, (r'.run .json).run left = y, h left = hxy
  cases hxy with
  | none => exact .none
  | @some p q h =>
    obtain ⟨hR, hleft⟩ := h
    rw [Option.bind_some, Option.bind_some, hleft]
    exact hf p.1 q.1 hR q.2

/-- One step of two readings that make the same of it. -/
theorem step {r r' : Read α} {f : α → Read γ} {f' : α → Read δ} (h : Agree Eq r r')
    (hf : ∀ a, Agree S (f a) (f' a)) : Agree S (r >>= f) (r' >>= f') :=
  h.bind fun a _ hab => hab ▸ hf a

theorem mapM {f : α → Read γ} {f' : β → Read δ} : ∀ {as : List α} {bs : List β},
    List.Forall₂ (fun a b => Agree S (f a) (f' b)) as bs →
      Agree (List.Forall₂ S) (as.mapM f) (bs.mapM f')
  | [], _, .nil => by
    rw [List.mapM_nil, List.mapM_nil]
    exact .of_returns (.pure []) (.pure []) .nil
  | _ :: _, _, .cons h hs => by
    rw [List.mapM_cons, List.mapM_cons]
    refine h.bind fun c d hcd => (mapM hs).bind fun cs ds hcds => ?_
    exact .of_returns (.pure _) (.pure _) (.cons hcd hcds)

/-- What both readings make of a JSON value is the same. -/
theorem from?_eq {r r' : Read α} (h : Agree Eq r r') : r.from? .json 0 = r'.from? .json 0 := by
  rw [Read.from?, Read.from?]
  generalize (r.run .json).run 0 = x, (r'.run .json).run 0 = y, h 0 = hxy
  cases hxy with
  | none => rfl
  | some h => exact congrArg some h.1

end Agree

end ServiceApi.Node
