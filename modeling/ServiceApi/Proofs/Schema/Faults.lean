import ServiceApi.Proofs.Schema.Plan

/-! # Whose fault it is

Names, transformers, properties and shapes follow from the catalog, so whatever goes wrong with them
lies in the types and in what is declared of them. The repository is never blamed for it. -/

namespace ServiceApi

/-- A failure of `x` is not one of the repository. -/
def SparesRepository {α : Type} (x : Except ApiError α) : Prop :=
  ∀ t fault, x ≠ .error (.repositoryIntegrity t fault)

namespace SparesRepository

variable {α β : Type}

theorem ok (a : α) : SparesRepository (.ok a : Except ApiError α) := fun _ _ h => by cases h

theorem error {e : ApiError} (h : ∀ t fault, e ≠ .repositoryIntegrity t fault) :
    SparesRepository (.error e : Except ApiError α) :=
      fun t fault he => h t fault (by cases he; rfl)

theorem bind {x : Except ApiError α} {f : α → Except ApiError β} (h : SparesRepository x)
    (hf : ∀ a, SparesRepository (f a)) : SparesRepository (x >>= f) := by
  cases x with
  | ok a => exact hf a
  | error e => exact error fun t fault he => h t fault (by rw [he])

end SparesRepository

/-- Whatever goes wrong in `x` is one of `P`. -/
def FailsBy (P : ApiError → Bool) {α : Type} (x : Except ApiError α) : Prop :=
  ∀ e, x = .error e → P e = true

/-- The error lies in types and what is declared of them. -/
def ApiError.isOfDeclarations : ApiError → Bool
  | unknownClass .. | unknownTransformer .. | unsupportedType .. | noConstructor .. |
    sourceMismatch .. => true
  | _ => false

/-- The error lies in types and what is declared of them, as far as there was fuel to see. -/
def ApiError.isOfTypes : ApiError → Bool
  | unknownClass .. | unknownTransformer .. | unsupportedType .. | noConstructor .. |
    sourceMismatch .. | outOfFuel => true
  | _ => false

namespace FailsBy

variable {α β : Type} {P Q : ApiError → Bool} {x : Except ApiError α}

theorem ok (a : α) : FailsBy P (.ok a : Except ApiError α) := fun _ h => by cases h

theorem error {e : ApiError} (h : P e = true) :
    FailsBy P (.error e : Except ApiError α) := fun _ he => by
  cases he
  exact h

theorem mono (hx : FailsBy P x) (h : ∀ e, P e = true → Q e = true) : FailsBy Q x :=
  fun e he => h e (hx e he)

theorem bind_of_ok {f : α → Except ApiError β} (h : FailsBy P x)
    (hf : ∀ a, x = .ok a → FailsBy P (f a)) : FailsBy P (x >>= f) := by
  cases x with
  | ok a => exact hf a rfl
  | error e => exact error (h e rfl)

theorem bind {f : α → Except ApiError β} (h : FailsBy P x) (hf : ∀ a, FailsBy P (f a)) :
    FailsBy P (x >>= f) := h.bind_of_ok fun a _ => hf a

theorem map (f : α → β) (h : FailsBy P x) : FailsBy P (x.map f) := by
  cases x with
  | ok a => exact ok _
  | error e => exact error (h e rfl)

theorem mapM {f : α → Except ApiError β} (hf : ∀ a, FailsBy P (f a)) (as : List α) :
    FailsBy P (as.mapM f) := by
  induction as with
  | nil => rw [List.mapM_nil]; exact ok _
  | cons a as ih =>
    rw [List.mapM_cons]
    exact (hf a).bind fun _ => ih.bind fun _ => ok _

theorem foldlM {f : β → α → Except ApiError β} (hf : ∀ b a, FailsBy P (f b a)) :
    ∀ (as : List α) (b : β), FailsBy P (as.foldlM f b)
  | [], b => ok b
  | a :: as, b => by
    rw [List.foldlM_cons]
    exact (hf b a).bind (foldlM hf as)

theorem forM {f : α → Except ApiError Unit} (hf : ∀ a, FailsBy P (f a)) :
    ∀ as : List α, FailsBy P (as.forM f)
  | [] => ok _
  | a :: as => (hf a).bind fun _ => forM hf as

theorem plan_bind {p : Plan α} {f : α → Plan β} (h : FailsBy P p.outcome)
    (hf : ∀ a, FailsBy P (f a).outcome) : FailsBy P (p >>= f).outcome := by
  rw [Plan.outcome_bind]
  exact h.bind hf

theorem ofTypes (h : FailsBy ApiError.isOfDeclarations x) : FailsBy ApiError.isOfTypes x :=
  h.mono fun e he => by cases e <;> first | rfl | cases he

theorem ne_outOfFuel (h : FailsBy ApiError.isOfDeclarations x) :
    x ≠ .error .outOfFuel := fun he => by
  cases h _ he

theorem spares (h : FailsBy ApiError.isOfTypes x) : SparesRepository x := fun _ _ he => by
  cases h _ he

end FailsBy

open FailsBy

namespace Catalog

variable (c : Catalog)

theorem requireClass_failsBy (name location : String) :
    FailsBy ApiError.isOfDeclarations (c.requireClass name location) := by
  unfold requireClass
  split
  · exact ok _
  · exact error rfl

theorem requireTransformer_failsBy (name location : String) :
    FailsBy ApiError.isOfDeclarations (c.requireTransformer name location) := by
  unfold requireTransformer
  split
  · exact ok _
  · exact error rfl

theorem instantiate_failsBy (name : String) (t : TypeExpr) :
    FailsBy ApiError.isOfDeclarations (c.instantiate name t) := by
  refine (c.requireTransformer_failsBy name _).bind fun decl => ?_
  split
  · exact error rfl
  · split
    · exact error rfl
    · exact ok _

variable (rules : SerializationRules)

theorem primaryTransformer_failsBy (t : TypeExpr) :
    FailsBy ApiError.isOfDeclarations (c.primaryTransformer rules t) := by
  unfold primaryTransformer
  split
  · exact ok _
  · exact (c.instantiate_failsBy _ t).map _

theorem schemaType_failsBy (t : TypeExpr) :
    FailsBy ApiError.isOfDeclarations (c.schemaType rules t) :=
  (c.primaryTransformer_failsBy rules t).map _

theorem resourceSchema_failsBy (t : TypeExpr) :
    FailsBy ApiError.isOfDeclarations (c.resourceSchema rules t) :=
  (c.primaryTransformer_failsBy rules t).map _

theorem superclassChain_failsBy : ∀ (fuel : Nat) (visited : List TypeExpr) (t : TypeExpr),
    FailsBy ApiError.isOfTypes (c.superclassChain fuel visited t)
  | 0, _, _ => error rfl
  | fuel + 1, visited, t => by
    simp only [superclassChain]
    split
    · exact ok _
    · split
      · exact ok _
      · exact (superclassChain_failsBy fuel _ _).bind fun _ => ok _

theorem ownProperties_failsBy (owner : TypeExpr) :
    FailsBy ApiError.isOfDeclarations (c.ownProperties owner) := by
  unfold ownProperties
  split
  · exact ok _
  · refine FailsBy.mapM (fun p => ?_) _
    unfold resolveProperty
    dsimp only
    split
    · exact error rfl
    · exact ok _

theorem properties_failsBy (fuel : Nat) (t : TypeExpr) :
    FailsBy ApiError.isOfTypes (c.properties fuel t) := by
  unfold properties
  split
  · exact error rfl
  · exact (c.requireClass_failsBy _ _).ofTypes.bind fun _ =>
      (c.superclassChain_failsBy fuel [] t).bind fun _ =>
        (FailsBy.mapM c.ownProperties_failsBy _).ofTypes.bind fun _ => ok _

end Catalog

namespace Schema

variable (c : Catalog) (rules : SerializationRules)

mutual

theorem nameOf_failsBy :
    ∀ (fuel : Nat) (t : TypeExpr), FailsBy ApiError.isOfTypes (nameOf c rules fuel t)
  | 0, _ => by simp only [nameOf]; exact error rfl
  | fuel + 1, t => by
    simp only [nameOf]
    split
    · exact (c.schemaType_failsBy rules _).ofTypes.bind fun item =>
        (nameOf_failsBy fuel item).bind fun _ => ok _
    · split
      · exact ok _
      · refine (c.resourceSchema_failsBy rules _).ofTypes.bind fun resource => ?_
        split
        · exact ok _
        · exact (namesOf_failsBy fuel _).bind fun _ => ok _
      · exact error rfl

theorem namesOf_failsBy : ∀ (fuel : Nat) (ts : List TypeExpr),
    FailsBy ApiError.isOfTypes (namesOf c rules fuel ts)
  | _, [] => by simp only [namesOf]; exact ok _
  | 0, _ :: _ => by simp only [namesOf]; exact error rfl
  | fuel + 1, t :: ts => by
    simp only [namesOf]
    exact (nameOf_failsBy fuel t).bind fun _ => (namesOf_failsBy fuel ts).bind fun _ => ok _

end

theorem ofEnum_failsBy (fuel : Nat) (t : TypeExpr) :
    FailsBy ApiError.isOfTypes (ofEnum c rules fuel t) :=
  (c.requireClass_failsBy _ _).ofTypes.bind
    fun _ => (nameOf_failsBy c rules fuel t).bind fun _ => ok _

theorem shapeOf_failsBy (name : String) : ∀ (fuel : Nat) (t : TypeExpr),
    FailsBy ApiError.isOfTypes (shapeOf c rules name fuel t).outcome
  | 0, _ => error rfl
  | fuel + 1, t => by
    simp only [shapeOf]
    refine plan_bind (c.schemaType_failsBy rules t).ofTypes fun resolved => ?_
    split
    · exact error rfl
    · split
      · exact error rfl
      · exact plan_bind (shapeOf_failsBy name fuel _) fun _ => ok _
    all_goals exact ok _

theorem fieldsOf_failsBy (fuel : Nat) : ∀ ps : List ResolvedProperty,
    FailsBy ApiError.isOfTypes (fieldsOf c rules fuel ps).outcome
  | [] => ok _
  | p :: ps => plan_bind (shapeOf_failsBy c rules p.name fuel p.type) fun _ =>
      plan_bind (fieldsOf_failsBy fuel ps) fun _ => ok _

theorem ofArray_failsBy (fuel : Nat) (key : SchemaKey) :
    FailsBy ApiError.isOfTypes (ofArray c fuel key).outcome := by
  unfold ofArray
  split
  · exact error rfl
  · exact plan_bind (shapeOf_failsBy c key.rules "items" fuel _) fun _ =>
      plan_bind (nameOf_failsBy c key.rules fuel key.type) fun _ => ok _

theorem propertiesOf_failsBy (fuel : Nat) (key : SchemaKey) :
    FailsBy ApiError.isOfTypes (propertiesOf c fuel key) := by
  refine (c.resourceSchema_failsBy key.rules key.type).ofTypes.bind fun resource => ?_
  split
  · exact ok _
  · exact c.properties_failsBy fuel key.type

theorem ofBean_failsBy (fuel : Nat) (key : SchemaKey) :
    FailsBy ApiError.isOfTypes (ofBean c fuel key).outcome :=
  plan_bind (nameOf_failsBy c key.rules fuel key.type) fun _ =>
    plan_bind (propertiesOf_failsBy c fuel key) fun ps =>
      plan_bind (fieldsOf_failsBy c key.rules fuel ps) fun _ => ok _

end Schema

end ServiceApi
