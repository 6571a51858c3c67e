import ServiceApi.Proofs.Document.Collections

/-! # The schema of a repeated type

The values of a repeated type are wrapped in an object that holds the items. Whether a type is
wrapped is asked in another order than how it travels as a field: a class that is `Object` or a map
has one of the shared schemas, whatever else it is, and an enumeration lists its constants. All
other repeated types become collections, and then the items have the shape that they have where the
type is a field. -/

namespace ServiceApi

open Compile Repository Schema

variable {fuel : Nat} {c : Catalog} {key : SchemaKey} {t resolved item : TypeExpr}
  {config : ApiConfig} {repo u : Repository} {a : Compiled} {s : Schema}

namespace Catalog

/-- What travels as an enumeration is one, and what travels as an array is none. -/
theorem isEnum_eq {ft : FieldType} (h : c.fieldType? t = some ft) (hft : ft = .enum ∨ ft = .array) :
    c.isEnum t = (ft == .enum) := by
  cases t with
  | primitive p => cases p <;> cases h <;> simp at hft
  | array item =>
    rw [fieldType?] at h
    split at h
    · cases h
      simp at hft
    · cases h
      rfl
  | named name args =>
    rw [fieldType?] at h
    split at h
    · rename_i ft' hscalar
      cases h
      rcases hft with rfl | rfl
      · unfold scalarFieldType? at hscalar
        split at hscalar <;> cases hscalar
      · cases scalarFieldType?_isScalar hscalar
    · cases h
      split
      · assumption
      · rename_i hplain
        rw [Bool.not_eq_true] at hplain
        rw [hplain]
        split <;> rfl
  | _ => cases h

end Catalog

namespace Schema

/-- A repeated type is built as a collection, or as an enumeration if it is one too. -/
theorem ownPlan_repeated (hitem : c.arrayItem? key.type = some item)
    (h : (ownPlan c fuel key).outcome = .ok s) : (c.isEnum key.type = true ∧ s.kind = .string) ∨
      c.isEnum key.type = false ∧ ∃ name shape, s = collection name shape ∧
        HasShape c key.rules item shape := by
  unfold ownPlan at h
  split at h
  · cases h
  · rename_i henum
    obtain ⟨decl, -, h⟩ := ok_of_bind h
    obtain ⟨name, -, h⟩ := ok_of_bind h
    cases h
    exact .inl ⟨Catalog.isEnum_eq henum (.inl rfl), rfl⟩
  · rename_i harray
    exact .inr ⟨Catalog.isEnum_eq harray (.inr rfl), ofArray_ok hitem h⟩
  · rename_i hobject
    have hflat := Catalog.isArray_eq hobject (.inr rfl)
    rw [Catalog.isArray, hitem] at hflat
    cases hflat
  · cases h

theorem planOf_collection_iff (hitem : c.arrayItem? key.type = some item)
    (h : (planOf c fuel key).outcome = .ok a) :
    (∃ name shape, a.schema = collection name shape ∧ HasShape c key.rules item shape) ↔
      key.type.isAnyObject = false ∧ c.isMap key.type = false ∧ c.isEnum key.type = false := by
  unfold planOf at h
  split at h
  · rename_i hany
    cases h
    simp [hany, Compiled.anyValue, anyValue, collection]
  · rename_i hany
    split at h
    · rename_i hmap
      cases h
      simp [hmap, Compiled.anyMap, anyMap, collection]
    · rename_i hmap
      obtain ⟨s, hs, h, -⟩ := Plan.ok_of_bind h
      cases h
      rcases ownPlan_repeated hitem hs with ⟨henum, hkind⟩ | ⟨henum, hcollection⟩
      · refine iff_of_false ?_ fun hplain => by cases henum.symm.trans hplain.2.2
        rintro ⟨name, shape, heq, -⟩
        have hobject : s.kind = .object := congrArg Schema.kind heq
        cases hkind.symm.trans hobject
      · exact iff_of_true hcollection ⟨by simpa using hany, by simpa using hmap, henum⟩

end Schema

namespace Repository

/-- The schema of a repeated type is a collection of what its items become, unless the type is
`Object`, a map or an enumeration. Where it travels as an array it is no enumeration, and the
collection holds the items in the very shape that they have there. -/
theorem repeated_types_become_collections (hrepo : UsedOver c repo) (hc : config.catalog = c)
    (hresolved : c.schemaType config.rules t = .ok resolved)
    (hitem : c.arrayItem? resolved = some item)
    (h : (getOrAdd fuel t config).result repo = (.ok a, u)) :
    ((∃ name shape, a.schema = collection name shape ∧ HasShape c config.rules item shape) ↔
      resolved.isAnyObject = false ∧ c.isMap resolved = false ∧ c.isEnum resolved = false) ∧
    ∀ shape, HasShape c config.rules t (.array shape) →
      ((∃ name, a.schema = collection name shape) ↔ resolved.isAnyObject = false ∧
        c.isMap resolved = false) := by
  obtain ⟨resolved', n, hresolved', hplan⟩ := getOrAdd_planned hrepo hc h
  cases hresolved.symm.trans hresolved'
  have hiff := planOf_collection_iff hitem hplan
  refine ⟨hiff, fun shape hshape => ?_⟩
  cases hshape with
  | array hr harray hitem' hshape =>
    cases hresolved.symm.trans hr
    cases hitem.symm.trans hitem'
    have henum : c.isEnum resolved = false := Catalog.isEnum_eq harray (.inr rfl)
    constructor
    · rintro ⟨name, heq⟩
      obtain ⟨hany, hmap, -⟩ := hiff.mp ⟨name, shape, heq, hshape⟩
      exact ⟨hany, hmap⟩
    · rintro ⟨hany, hmap⟩
      obtain ⟨name, shape', heq, hshape'⟩ := hiff.mpr ⟨hany, hmap, henum⟩
      exact ⟨name, hshape'.unique hshape ▸ heq⟩

end Repository

/-- Registers are collections of such items, and whatever else `more` says. -/
def registers (item : TypeExpr) (more : List TypeExpr) : Catalog :=
  [{ name := "Item", properties := [{ name := "label", type := .raw "String" }] },
    { name := "Register", interfaces := .named "Collection" [item] :: more }].foldl
      Catalog.addClass .builtin

/-- A method that gives the register of a desk. -/
def readRegister : MethodConfig :=
  { endpoint := { serviceClass := "Desk", declaringClass := "Desk", name := "read",
                  returnType := some (.raw "Register") }
    name := "desk.read", path := "read", httpMethod := "GET", impliedResource := none }

def deskConfig (item : TypeExpr) (more : List TypeExpr) : ApiConfig :=
  (ApiConfig.default ⟨"registers", registers item more⟩ {} "Desk").setMethods <|
    OrderedMap.empty.insert readRegister.endpoint.key readRegister

namespace Repository

/-- Registers of arrays of items. -/
theorem repeated_types_become_collections_register :
    let config := deskConfig (.array (.raw "Item")) []
    let t : TypeExpr := .raw "Register"
    let shape : FieldShape := .array (.object ⟨config.rules, .raw "Item"⟩)
    HasShape config.catalog config.rules t (.array shape) ∧
      ∃ a u name, (getOrAdd 9 t config).result {} = (.ok a, u) ∧
        a.schema = collection name shape := by
  intro config t shape
  have hresolved : config.catalog.schemaType config.rules t = .ok t := by rfl
  have hitem : config.catalog.arrayItem? t = some (.array (.raw "Item")) := by decide +kernel
  have hshape : HasShape config.catalog config.rules t (.array shape) :=
    @hasShape_of_shapeOf _ _ "" 9 _ _ (by rfl)
  obtain ⟨a, u, hcall⟩ : ∃ a u, (getOrAdd 9 t config).result {} = (.ok a, u) :=
    exists_result_of_isOk (by decide +kernel)
  obtain ⟨-, hfield⟩ := repeated_types_become_collections .new rfl hresolved hitem hcall
  obtain ⟨name, heq⟩ := (hfield shape hshape).mpr ⟨by decide, by decide +kernel⟩
  exact ⟨hshape, a, u, name, hcall, heq⟩

/-- Registers of items that are maps as well. A method may give them, as it may give collections,
and they travel as arrays of items where they are fields; but what the method answers with is any
map. -/
theorem registers_are_given_as_maps :
    let config := deskConfig (.raw "Item") [.named "Map" [.raw "String", .raw "Item"]]
    let m : MethodScope := ⟨config, readRegister⟩
    let t : TypeExpr := .raw "Register"
    Validate.configs 9 [config] = .ok () ∧ m ∈ activeMethods [config] ∧
      m.method.returnType? = some t ∧
      config.catalog.schemaType config.rules t = .ok t ∧
        config.catalog.arrayItem? t = some (.raw "Item") ∧
      HasShape config.catalog config.rules t (.array (.object ⟨config.rules, .raw "Item"⟩)) ∧
      ((getOrAdd 9 t config).result {}).1.toOption.map (·.schema) = some .anyMap ∧
      ((m.responseSchema 9).result {}).1.toOption.join = some .anyMap := by
  intro config m t
  have hresolved : config.catalog.schemaType config.rules t = .ok t := by rfl
  have hshape :
      HasShape config.catalog config.rules t (.array (.object ⟨config.rules, .raw "Item"⟩)) :=
    @hasShape_of_shapeOf _ _ "" 9 _ _ (by rfl)
  obtain ⟨⟨⟩, hvalid⟩ : ∃ r, Validate.configs 9 [config] = .ok r :=
    exists_of_isOk (by decide +kernel)
  exact ⟨hvalid, List.mem_singleton_self m, by rfl, hresolved, by decide +kernel, hshape,
    by decide +kernel, by decide +kernel⟩

end Repository

end ServiceApi
