import ServiceApi.Proofs.Catalog.Declarations

/-! # Schemas come from declarations

Catalogs that declare the same classes and transformers name, plan and build the same schemas,
whatever repository they compile into. -/

namespace ServiceApi.SameDeclarations

variable {c c' : Catalog}

/-! ## Names and plans -/

mutual

theorem nameOf (h : SameDeclarations c c') (rules : SerializationRules) :
    ∀ (fuel : Nat) (t : TypeExpr), Schema.nameOf c rules fuel t = Schema.nameOf c' rules fuel t
  | 0, _ => rfl
  | fuel + 1, t => by
    simp only [Schema.nameOf, h.arrayItem?, h.schemaType, h.resourceSchema]
    split
    · simp only [nameOf h rules fuel]
    · cases t with
      | named name args => simp only [namesOf h rules fuel args]
      | _ => rfl

theorem namesOf (h : SameDeclarations c c') (rules : SerializationRules) :
    ∀ (fuel : Nat) (ts : List TypeExpr), Schema.namesOf c rules fuel ts =
      Schema.namesOf c' rules fuel ts
  | _, [] => by simp only [Schema.namesOf]
  | 0, _ :: _ => by simp only [Schema.namesOf]
  | fuel + 1, t :: ts => by
    simp only [Schema.namesOf, nameOf h rules fuel t, namesOf h rules fuel ts]

end

variable (h : SameDeclarations c c')

include h

theorem ofEnum : Schema.ofEnum c = Schema.ofEnum c' := by
  funext rules fuel t
  rw [Schema.ofEnum, Schema.ofEnum, h.requireClass, h.nameOf rules fuel t]

theorem shapeOf (rules : SerializationRules) (name : String) (fuel : Nat) :
    Schema.shapeOf c rules name fuel = Schema.shapeOf c' rules name fuel := by
  induction fuel with
  | zero => rfl
  | succ fuel ih =>
    funext t
    simp only [Schema.shapeOf, h.schemaType, h.fieldType?, h.arrayItem?, ih]

theorem fieldsOf (rules : SerializationRules) (fuel : Nat) : ∀ ps : List ResolvedProperty,
    Schema.fieldsOf c rules fuel ps = Schema.fieldsOf c' rules fuel ps
  | [] => rfl
  | p :: ps => by simp only [Schema.fieldsOf, h.shapeOf, fieldsOf rules fuel ps]

theorem ofArray : Schema.ofArray c = Schema.ofArray c' := by
  funext fuel key
  simp only [Schema.ofArray, h.arrayItem?, h.shapeOf, h.nameOf key.rules fuel key.type]

theorem propertiesOf : Schema.propertiesOf c = Schema.propertiesOf c' := by
  funext fuel key
  rw [Schema.propertiesOf, Schema.propertiesOf, h.resourceSchema, h.properties]

theorem ofBean : Schema.ofBean c = Schema.ofBean c' := by
  funext fuel key
  simp only [Schema.ofBean, h.nameOf key.rules fuel key.type, h.propertiesOf, h.fieldsOf, h.declOf?]

/-! ## Compiling -/

theorem build : Schema.build c = Schema.build c' := by
  funext fuel key meet
  simp only [Schema.build, h.fieldType?, h.ofEnum, h.ofArray, h.ofBean]

theorem ensure (fuel : Nat) : Schema.ensure c fuel = Schema.ensure c' fuel := by
  induction fuel with
  | zero =>
    funext key
    rw [Schema.ensure, Schema.ensure]
  | succ fuel ih =>
    funext key
    simp only [Schema.ensure, h.isMap, h.build, ih]

theorem compile : Repository.compile c = Repository.compile c' := by
  funext fuel key
  rw [Repository.compile, Repository.compile, h.ensure]

end ServiceApi.SameDeclarations
