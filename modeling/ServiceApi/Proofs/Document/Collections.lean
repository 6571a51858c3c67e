import ServiceApi.Proofs.Document.Purity
import ServiceApi.Proofs.Schema.Shapes
import ServiceApi.Proofs.Validated.Method

/-! # Collections that are returned

Validation refuses a method that returns a collection of collections, and looks at the item type as
it is declared for that. The schema is compiled of what the items become under their transformer,
which may make collections of them again. No other collections of collections pass. -/

namespace ServiceApi

open Compile Repository

variable {fuel fuel' : Nat} {configs : List ApiConfig} {m : MethodScope} {c : Catalog}
  {rules : SerializationRules} {key : SchemaKey} {t resolved item type : TypeExpr} {a : Compiled}
  {repo u : Repository}

namespace Catalog

theorem scalarFieldType?_isScalar {name : String} {ft : FieldType}
    (h : scalarFieldType? name = some ft) : ft.isScalar = true := by
  unfold scalarFieldType? at h
  split at h <;> cases h <;> rfl

/-- What travels as an array is repeated, and what travels as an object is not. -/
theorem isArray_eq {ft : FieldType} (h : c.fieldType? t = some ft)
    (hft : ft = .array ∨ ft = .object) : c.isArray t = (ft == .array) := by
  cases t with
  | primitive p => cases p <;> cases h <;> simp at hft
  | array item =>
    rw [fieldType?] at h
    split at h
    · cases h
      simp at hft
    · cases h
      rw [isArray, arrayItem?, if_neg ‹_›]
      rfl
  | named name args =>
    rw [fieldType?] at h
    split at h
    · rename_i hscalar
      have hscalar := scalarFieldType?_isScalar hscalar
      cases h
      rcases hft with rfl | rfl <;> cases hscalar
    · split at h
      · cases h
        simp at hft
      · split at h
        · cases h
          assumption
        · cases h
          exact Bool.not_eq_true _ ▸ ‹¬ c.isArray (.named name args) = true›
  | _ => cases h

/-- A plain transformer of `t` makes a collection of it. -/
def MakesArray (c : Catalog) (rules : SerializationRules) (t : TypeExpr) : Prop :=
  ∃ b, c.primaryTransformer rules t = .ok (some b) ∧ b.resource = none ∧
    c.fieldType? b.serializedType = some .array

/-- A type that is no collection travels as one if and only if its transformer makes it one. -/
theorem makesArray_iff (hflat : c.isArray t = false) (ht : c.schemaType rules t = .ok type) :
    c.MakesArray rules t ↔ c.fieldType? type = some .array := by
  have hself : c.fieldType? t ≠ some .array := fun h => by
    rw [isArray_eq h (Or.inl rfl)] at hflat
    cases hflat
  rw [schemaType] at ht
  rw [MakesArray]
  cases hb : c.primaryTransformer rules t with
  | error e => rw [hb] at ht; cases ht
  | ok b? =>
    rw [hb] at ht
    cases ht
    cases b? with
    | none => simpa [applyTo] using hself
    | some b => cases hresource : b.resource <;> simp [applyTo, hresource, hself]

end Catalog

namespace Schema

/-- An object whose one field holds the items. -/
def collection (name : String) (shape : FieldShape) : Schema :=
  { name, fields := [{ name := "items", shape }] }

theorem ofArray_ok (hitem : c.arrayItem? key.type = some item) {s : Schema}
    (h : (ofArray c fuel key).outcome = .ok s) :
    ∃ name shape, s = collection name shape ∧ HasShape c key.rules item shape := by
  rw [ofArray, hitem] at h
  obtain ⟨shape, hshape, h, -⟩ := Plan.ok_of_bind h
  obtain ⟨name, -, h, -⟩ := Plan.ok_of_bind h
  cases h
  exact ⟨name, shape, rfl, hasShape_of_shapeOf hshape⟩

theorem ofArray_fields {s : Schema} (hitem : c.arrayItem? key.type = some item)
    (h : (ofArray c fuel key).outcome = .ok s) :
    ∃ shape type, s.fields = [{ name := "items", shape }] ∧ c.schemaType key.rules item = .ok type ∧
      c.fieldType? type = some shape.type := by
  obtain ⟨name, shape, rfl, hshape⟩ := ofArray_ok hitem h
  obtain ⟨type, htype, hfield⟩ := hshape.exists_fieldType
  exact ⟨shape, type, rfl, htype, hfield⟩

/-- A collection has one of the shared schemas, or one with a single field for its items. -/
theorem planOf_fields (hitem : c.arrayItem? key.type = some item)
    (harray : c.fieldType? key.type = some .array) (h : (planOf c fuel key).outcome = .ok a) :
    a = .anyValue ∨ a = .anyMap ∨
      ∃ shape type, a.schema.fields = [{ name := "items", shape }] ∧
        c.schemaType key.rules item = .ok type ∧ c.fieldType? type = some shape.type := by
  rw [planOf] at h
  split at h
  · cases h
    exact Or.inl rfl
  · split at h
    · cases h
      exact Or.inr (Or.inl rfl)
    · obtain ⟨s, hs, h, -⟩ := Plan.ok_of_bind h
      cases h
      rw [ownPlan, harray] at hs
      exact Or.inr (Or.inr (ofArray_fields hitem hs))

end Schema

/-- A collection that passes is one of values that are declared as no collections. -/
theorem Validate.returnType_ok (h : Validate.returnType m t = .ok ())
    (ht : m.api.catalog.schemaType m.api.rules t = .ok resolved)
    (hitem : m.api.catalog.arrayItem? resolved = some item) :
    m.api.catalog.fieldType? resolved = some .array ∧ m.api.catalog.isArray item = false := by
  obtain ⟨resolved', hresolved, h⟩ := ok_of_bind h
  cases ht.symm.trans hresolved
  dsimp only at h
  split at h
  · cases h
  · rename_i harray
    rw [hitem] at h
    dsimp only at h
    split at h
    · cases h
    · split at h
      · cases h
      · exact ⟨harray, by simpa using ‹¬ m.api.catalog.isArray item = true›⟩
  · rename_i hobject
    have hflat := Catalog.isArray_eq hobject (Or.inr rfl)
    rw [Catalog.isArray, hitem] at hflat
    cases hflat
  · cases h

namespace MethodScope

/-- The schema of a collection that a validated method returns is a shared one, or it has one field
for the items. These are declared as no collections, and are compiled as collections if and only if
their transformer makes collections of them. -/
theorem collections_nest_by_transformer (hvalid : Validate.configs fuel' configs = .ok ())
    (hm : m ∈ activeMethods configs) (hreturn : m.method.returnType? = some t)
    (ht : m.api.catalog.schemaType m.api.rules t = .ok resolved)
    (hitem : m.api.catalog.arrayItem? resolved = some item) (hrepo : UsedOver m.api.catalog repo)
    (h : (getOrAdd fuel t m.api).result repo = (.ok a, u)) :
    m.api.catalog.isArray item = false ∧
      (a = .anyValue ∨ a = .anyMap ∨ ∃ shape, a.schema.fields = [{ name := "items", shape }] ∧
        (shape.type = .array ↔ m.api.catalog.MakesArray m.api.rules item)) := by
  have hpassed := (checked_of_ok (Validate.method_of_ok hvalid hm)).returns t hreturn
  obtain ⟨harray, hflat⟩ := Validate.returnType_ok hpassed ht hitem
  refine ⟨hflat, ?_⟩
  rcases getOrAdd_cases hrepo.sound rfl fuel t with
    ⟨e, he, -⟩ | ⟨resolved', a', u', ht', hu, hg, ha⟩
  · cases he.symm.trans h
  · cases ht.symm.trans ht'
    cases hu.symm.trans h
    obtain ⟨a', heq, c, rfl, fuel₀, hplan, -⟩ := (hrepo.sound.adds rfl hg ha).settled _ _ ha.slot
    cases heq
    rcases Schema.planOf_fields hitem harray hplan with
      hany | hmap | ⟨shape, type, hfields, htype, hfield⟩
    · exact Or.inl hany
    · exact Or.inr (Or.inl hmap)
    · refine Or.inr (Or.inr ⟨shape, hfields, ?_⟩)
      rw [Catalog.makesArray_iff hflat htype, hfield, Option.some_inj]

end MethodScope

/-- Coins are sent as `target`. -/
def coinsAs (target : TypeExpr) : Catalog :=
  ((Catalog.builtin.addClass { name := "Amount" }).addClass
    { name := "Coin", transformer := some "CoinTransformer" }).addTransformer
    { name := "CoinTransformer", source := .raw "Coin", target }

/-- A method that gives all coins back. -/
def emptyPurse : MethodConfig :=
  { endpoint := { serviceClass := "Purse", declaringClass := "Purse", name := "empty",
                  returnType := some (.named "List" [.raw "Coin"]) }
    name := "purse.empty", path := "empty", httpMethod := "POST", impliedResource := none }

def purseConfig (target : TypeExpr) : ApiConfig :=
  (ApiConfig.default ⟨"coins", coinsAs target⟩ {} "Purse").setMethods <|
    OrderedMap.empty.insert emptyPurse.endpoint.key emptyPurse

namespace MethodScope

/-- Coins that are sent as objects. -/
theorem collections_nest_by_transformer_coins :
    let m : MethodScope := ⟨purseConfig (.raw "Amount"), emptyPurse⟩
    let t : TypeExpr := .named "List" [.raw "Coin"]
    Validate.configs 9 [m.api] = .ok () ∧ m ∈ activeMethods [m.api] ∧
      m.method.returnType? = some t ∧ ∃ a u shape, (getOrAdd 9 t m.api).result {} = (.ok a, u) ∧
        a.schema.fields = [{ name := "items", shape }] ∧ shape.type ≠ .array := by
  intro m t
  have hm : m ∈ activeMethods [m.api] := List.mem_singleton_self m
  have hreturn : m.method.returnType? = some t := by rfl
  have hresolved : m.api.catalog.schemaType m.api.rules t = .ok t := by rfl
  have hitem : m.api.catalog.arrayItem? t = some (.raw "Coin") := by decide +kernel
  obtain ⟨⟨⟩, hvalid⟩ : ∃ r, Validate.configs 9 [m.api] = .ok r :=
    exists_of_isOk (by decide +kernel)
  have hfields :
      ((getOrAdd 9 t m.api).result {}).1.toOption.any (·.schema.fields.length == 1) = true := by
    decide +kernel
  have hplain : ¬ m.api.catalog.MakesArray m.api.rules (.raw "Coin") := by
    have hamount :
        m.api.catalog.schemaType m.api.rules (.raw "Coin") = .ok (.raw "Amount") := by rfl
    rw [Catalog.makesArray_iff (by decide +kernel) hamount]
    decide +kernel
  obtain ⟨a, u, hcall⟩ : ∃ a u, (getOrAdd 9 t m.api).result {} = (.ok a, u) :=
    exists_result_of_isOk (by decide +kernel)
  rw [hcall] at hfields
  obtain ⟨-, hany | hmap | ⟨shape, hshape, harray⟩⟩ :=
    collections_nest_by_transformer hvalid hm hreturn hresolved hitem .new hcall
  · rw [hany] at hfields
    cases hfields
  · rw [hmap] at hfields
    cases hfields
  · exact ⟨hvalid, hm, hreturn, a, u, shape, hcall, hshape, mt harray.mp hplain⟩

/-- Coins that are sent as lists: the collection of coins passes, and is compiled to lists in a
list. -/
theorem coins_are_returned_as_lists_in_a_list :
    let m : MethodScope := ⟨purseConfig (.named "List" [.raw "String"]), emptyPurse⟩
    let t : TypeExpr := .named "List" [.raw "Coin"]
    Validate.configs 9 [m.api] = .ok () ∧ m ∈ activeMethods [m.api] ∧
      m.method.returnType? = some t ∧
      m.api.catalog.schemaType m.api.rules t = .ok t ∧ m.api.catalog.isArray t = true ∧
      ((getOrAdd 9 t m.api).result {}).1.toOption.map
        (·.schema.fields.map fun f => (f.name, f.shape)) =
          some [("items", .array (.scalar .string))] := by
  intro m t
  obtain ⟨⟨⟩, hvalid⟩ : ∃ r, Validate.configs 9 [m.api] = .ok r :=
    exists_of_isOk (by decide +kernel)
  exact ⟨hvalid, List.mem_singleton_self m, by rfl, by rfl, by decide +kernel, by decide +kernel⟩

end MethodScope

end ServiceApi
