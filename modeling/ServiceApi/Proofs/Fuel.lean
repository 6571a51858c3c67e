import ServiceApi.Proofs.Schema.Plan

/-! # More fuel changes no answer

Fuel only cuts computations short. One that comes to an end with some fuel comes to the same end
with more, whether it succeeds or not; so what it answers with enough fuel is well defined. The
recursion is in the superclass chain, in names and in shapes of fields: all else follows step by
step. -/

namespace ServiceApi

/-! ## Computations cut short -/

/-- `x` has run out of fuel, or is `y`. -/
def CutShort {α : Type} (x y : Except ApiError α) : Prop := x = .error .outOfFuel ∨ x = y

namespace CutShort

variable {α β : Type}

theorem refl (x : Except ApiError α) : CutShort x x := Or.inr rfl

theorem bind {x y : Except ApiError α} {f g : α → Except ApiError β} (h : CutShort x y)
    (hf : ∀ a, CutShort (f a) (g a)) : CutShort (x >>= f) (y >>= g) := by
  rcases h with rfl | rfl
  · exact Or.inl rfl
  · cases x with
    | error e => exact refl _
    | ok a => exact hf a

theorem foldlM {f g : β → α → Except ApiError β} (hf : ∀ b a, CutShort (f b a) (g b a)) :
    ∀ (as : List α) (b : β), CutShort (as.foldlM f b) (as.foldlM g b)
  | [], b => refl _
  | a :: as, b => by
    rw [List.foldlM_cons, List.foldlM_cons]
    exact (hf b a).bind fun b' => foldlM hf as b'

theorem eq_of_ne {x y : Except ApiError α} (h : CutShort x y)
    (hx : x ≠ .error .outOfFuel) : x = y :=
  h.resolve_left hx

end CutShort

namespace Plan

variable {α β : Type}

/-- `p` is `q`, or runs out of fuel on the way. -/
def CutShort (p q : Plan α) : Prop :=
  p = q ∨ p.outcome = .error .outOfFuel ∧ p.needs <+: q.needs

namespace CutShort

theorem refl (p : Plan α) : CutShort p p := Or.inl rfl

theorem fail (q : Plan α) : CutShort (.fail .outOfFuel) q := Or.inr ⟨rfl, List.nil_prefix⟩

theorem lift {x y : Except ApiError α} (h : ServiceApi.CutShort x y) :
    CutShort (liftM x) (liftM y) := by
  rcases h with rfl | rfl
  · exact fail _
  · exact refl _

theorem bind {p q : Plan α} {f g : α → Plan β} (h : CutShort p q)
    (hf : ∀ a, CutShort (f a) (g a)) : CutShort (p >>= f) (q >>= g) := by
  rcases h with rfl | ⟨hp, hn⟩
  · cases ho : p.outcome with
    | error e =>
      rw [bind_of_error f ho, bind_of_error g ho]
      exact refl _
    | ok a =>
      rw [bind_of_ok f ho, bind_of_ok g ho]
      rcases hf a with he | ⟨he, hn⟩
      · rw [he]; exact refl _
      · exact Or.inr ⟨he, (List.prefix_append_right_inj p.needs).mpr hn⟩
  · rw [bind_of_error f hp]
    refine Or.inr ⟨rfl, hn.trans ?_⟩
    cases ho : q.outcome with
    | error e =>
      have hneeds : (q >>= g).needs = q.needs := congrArg Plan.needs (bind_of_error g ho)
      exact hneeds ▸ List.prefix_rfl
    | ok a =>
      have hneeds : (q >>= g).needs = q.needs ++ (g a).needs :=
        congrArg Plan.needs (bind_of_ok g ho)
      exact hneeds ▸ List.prefix_append _ _

theorem eq_of_ne {p q : Plan α} (h : CutShort p q) (hp : p.outcome ≠ .error .outOfFuel) : p = q :=
  h.resolve_right fun hc => hp hc.1

theorem needs_extend {p q : Plan α} (h : CutShort p q) : p.needs <+: q.needs := by
  rcases h with rfl | ⟨-, hn⟩
  · exact List.prefix_rfl
  · exact hn

end CutShort

end Plan

/-! ## Properties of classes -/

namespace Catalog

variable (c : Catalog)

theorem superclassChain_cutShort : ∀ {fuel fuel' : Nat}, fuel ≤ fuel' →
    ∀ (visited : List TypeExpr) (t : TypeExpr),
      CutShort (c.superclassChain fuel visited t) (c.superclassChain fuel' visited t)
  | 0, _, _, _, _ => Or.inl rfl
  | n + 1, m + 1, h, visited, t => by
    simp only [superclassChain]
    cases c.superclass? t with
    | none => exact .refl _
    | some next =>
      dsimp only
      split
      · exact .refl _
      · exact (superclassChain_cutShort (Nat.le_of_succ_le_succ h) _ next).bind fun _ => .refl _

theorem properties_cutShort {fuel fuel' : Nat} (h : fuel ≤ fuel') (t : TypeExpr) :
    CutShort (c.properties fuel t) (c.properties fuel' t) := by
  unfold properties
  cases t.rawName? with
  | none => exact .refl _
  | some name =>
    exact (CutShort.refl _).bind fun _ =>
      (c.superclassChain_cutShort h [] t).bind fun _ => .refl _

end Catalog

/-! ## Names and plans of schemas -/

namespace Schema

variable (c : Catalog) (rules : SerializationRules)

mutual

theorem nameOf_cutShort : ∀ {fuel fuel' : Nat}, fuel ≤ fuel' → ∀ t : TypeExpr,
    CutShort (nameOf c rules fuel t) (nameOf c rules fuel' t)
  | 0, _, _, _ => Or.inl (by simp only [nameOf])
  | n + 1, m + 1, h, t => by
    have hle : n ≤ m := Nat.le_of_succ_le_succ h
    simp only [nameOf]
    cases c.arrayItem? t with
    | some item =>
      exact (CutShort.refl _).bind fun item =>
        (nameOf_cutShort hle item).bind fun _ => .refl _
    | none =>
      cases t with
      | named name args =>
        refine (CutShort.refl _).bind fun resource => ?_
        cases resource.bind (·.name) with
        | some resourceName => exact .refl _
        | none => exact (namesOf_cutShort hle args).bind fun _ => .refl _
      | _ => exact .refl _

theorem namesOf_cutShort : ∀ {fuel fuel' : Nat}, fuel ≤ fuel' → ∀ ts : List TypeExpr,
    CutShort (namesOf c rules fuel ts) (namesOf c rules fuel' ts)
  | _, _, _, [] => by simp only [namesOf]; exact .refl _
  | 0, _, _, _ :: _ => Or.inl (by simp only [namesOf])
  | n + 1, m + 1, h, t :: ts => by
    have hle : n ≤ m := Nat.le_of_succ_le_succ h
    simp only [namesOf]
    exact (nameOf_cutShort hle t).bind fun _ => (namesOf_cutShort hle ts).bind fun _ => .refl _

end

theorem ofEnum_cutShort {fuel fuel' : Nat} (h : fuel ≤ fuel') (t : TypeExpr) :
    CutShort (ofEnum c rules fuel t) (ofEnum c rules fuel' t) :=
  (CutShort.refl _).bind fun _ => (nameOf_cutShort c rules h t).bind fun _ => .refl _

theorem shapeOf_cutShort (name : String) : ∀ {fuel fuel' : Nat}, fuel ≤ fuel' → ∀ t : TypeExpr,
    (shapeOf c rules name fuel t).CutShort (shapeOf c rules name fuel' t)
  | 0, _, _, _ => .fail _
  | n + 1, m + 1, h, t => by
    simp only [shapeOf]
    refine (Plan.CutShort.refl _).bind fun resolved => ?_
    split
    · exact .refl _
    · cases c.arrayItem? resolved with
      | none => exact .refl _
      | some item =>
        exact (shapeOf_cutShort name (Nat.le_of_succ_le_succ h) item).bind fun _ => .refl _
    all_goals exact .refl _

theorem fieldsOf_cutShort {fuel fuel' : Nat} (h : fuel ≤ fuel') : ∀ ps : List ResolvedProperty,
    (fieldsOf c rules fuel ps).CutShort (fieldsOf c rules fuel' ps)
  | [] => .refl _
  | p :: ps =>
    (shapeOf_cutShort c rules p.name h p.type).bind fun _ =>
      (fieldsOf_cutShort h ps).bind fun _ => .refl _

theorem ofArray_cutShort {fuel fuel' : Nat} (h : fuel ≤ fuel') (key : SchemaKey) :
    (ofArray c fuel key).CutShort (ofArray c fuel' key) := by
  unfold ofArray
  cases c.arrayItem? key.type with
  | none => exact .refl _
  | some item =>
    exact (shapeOf_cutShort c key.rules "items" h item).bind fun _ =>
      (Plan.CutShort.lift (nameOf_cutShort c key.rules h key.type)).bind fun _ => .refl _

theorem propertiesOf_cutShort {fuel fuel' : Nat} (h : fuel ≤ fuel') (key : SchemaKey) :
    CutShort (propertiesOf c fuel key) (propertiesOf c fuel' key) := by
  refine (CutShort.refl _).bind fun resource => ?_
  cases resource with
  | some resource => exact .refl _
  | none => exact c.properties_cutShort h key.type

theorem ofBean_cutShort {fuel fuel' : Nat} (h : fuel ≤ fuel') (key : SchemaKey) :
    (ofBean c fuel key).CutShort (ofBean c fuel' key) :=
  (Plan.CutShort.lift (nameOf_cutShort c key.rules h key.type)).bind fun _ =>
    (Plan.CutShort.lift (propertiesOf_cutShort c h key)).bind fun ps =>
      (fieldsOf_cutShort c key.rules h ps).bind fun _ => .refl _

end Schema

end ServiceApi
