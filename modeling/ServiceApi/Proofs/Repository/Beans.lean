import ServiceApi.Proofs.Document.Purity
import ServiceApi.Proofs.Schema.Shapes

/-! # The schema of a bean describes the bean

Whatever has been compiled before, and in whatever order, a call that asks for the schema of a class
that travels as an object answers with one field for each of its properties, of the shape that the
type of the property has. Placeholders and schemas that were kept do not show. -/

namespace ServiceApi

open Compile Repository

variable {fuel : Nat} {c : Catalog} {rules : SerializationRules} {key : SchemaKey}
  {t resolved : TypeExpr}
  {config : ApiConfig} {repo u : Repository} {a : Compiled} {ps : List ResolvedProperty}

/-- The properties that a type is published with: those of the resource schema, if the first
transformer of the type is a resource transformer, and else those of the class. -/
inductive Catalog.Publishes (c : Catalog) (rules : SerializationRules) (t : TypeExpr) :
    List ResolvedProperty → Prop
  | resource {s : ResourceSchema} : c.resourceSchema rules t = .ok (some s) →
      Publishes c rules t (s.properties.map fun p => ⟨p.name, p.type, none, none⟩)
  | bean {ps : List ResolvedProperty} (n : Nat) : c.resourceSchema rules t = .ok none →
      (∀ fuel ≥ n, c.properties fuel t = .ok ps) → Publishes c rules t ps

theorem Schema.publishes_of_propertiesOf (h : propertiesOf c fuel key = .ok ps) :
    c.Publishes key.rules key.type ps := by
  obtain ⟨resource, hresource, h⟩ := ok_of_bind h
  cases resource with
  | some s =>
    cases h
    exact .resource hresource
  | none =>
    have h : c.properties fuel key.type = .ok ps := h
    refine .bean fuel hresource fun fuel' hle => ?_
    have hcut := c.properties_cutShort hle key.type
    rw [h] at hcut
    exact (hcut.eq_of_ne nofun).symm

theorem Schema.planOf_describes (hobject : c.fieldType? key.type = some .object)
    (hany : key.type.isAnyObject = false) (hmap : c.isMap key.type = false)
    (h : (planOf c fuel key).outcome = .ok a) :
    ∃ ps, c.Publishes key.rules key.type ps ∧ Describes c key.rules a.schema ps := by
  unfold planOf at h
  rw [if_neg (by simp [hany]), if_neg (by simp [hmap])] at h
  obtain ⟨s, hs, h, -⟩ := Plan.ok_of_bind h
  cases h
  unfold ownPlan at hs
  rw [hobject] at hs
  obtain ⟨ps, hps, hdescribes⟩ := ofBean_describes hs
  exact ⟨ps, publishes_of_propertiesOf hps, hdescribes⟩

namespace Repository

/-- What a call that answers with success has to say of a class that travels as an object. Its
schema has the fields that the properties of the class have, or those of its resource schema; each
field is that of the last property with its name, and it has the one shape that the values of that
property have. -/
theorem bean_schemas_describe_the_bean (hrepo : UsedOver c repo) (hc : config.catalog = c)
    (hresolved : c.schemaType config.rules t = .ok resolved)
    (hobject : c.fieldType? resolved = some .object)
    (hany : resolved.isAnyObject = false) (hmap : c.isMap resolved = false)
    (h : (getOrAdd fuel t config).result repo = (.ok a, u)) :
    ∃ ps, c.Publishes config.rules resolved ps ∧
      (∀ name, name ∈ a.schema.fields.map (·.name) ↔ name ∈ ps.map (·.name)) ∧
      (a.schema.fields.map (·.name)).Pairwise (· < ·) ∧
      ∀ f ∈ a.schema.fields, ∃ p, ps.reverse.find? (·.name = f.name) = some p ∧
        f.description = p.description ∧ f.required = p.required ∧
        ∀ shape, Schema.HasShape c config.rules p.type shape ↔ shape = f.shape := by
  subst hc
  rcases getOrAdd_cases hrepo.sound rfl fuel t with
    ⟨e, he, -⟩ | ⟨resolved', a', u', hresolved', hu, hg, ha⟩
  · cases he.symm.trans h
  · cases hresolved.symm.trans hresolved'
    cases hu.symm.trans h
    obtain ⟨a', heq, c, rfl, fuel₀, hplan, -⟩ := (hrepo.sound.adds rfl hg ha).settled _ _ ha.slot
    cases heq
    obtain ⟨ps, hps, hdescribes⟩ := Schema.planOf_describes hobject hany hmap hplan
    refine ⟨ps, hps, hdescribes.names, hdescribes.ascending, fun f hf => ?_⟩
    obtain ⟨p, hp, hfield⟩ := hdescribes.fields f hf
    refine ⟨p, hp, hfield.description, hfield.required, fun shape => ⟨fun hshape => ?_, ?_⟩⟩
    · exact hshape.unique hfield.shape
    · intro heq
      exact heq ▸ hfield.shape

/-- Books with a sequel, a price that is sent as a text, and shelves of genres. -/
def bookshop : Catalog :=
  ([{ name := "Genre", kind := .enumeration, enumConstants := ["PROSE", "VERSE"] },
    { name := "Price", transformer := some "PriceToText" },
    { name := "Book", properties := [
        { name := "title", type := .raw "String", api := some { required := some true } },
        { name := "shelves", type := .named "List" [.array (.raw "Genre")] },
        { name := "sequel", type := .raw "Book" },
        { name := "price", type := .raw "Price" }] }].foldl Catalog.addClass
          .builtin).addTransformer
    { name := "PriceToText", source := .raw "Price", target := .raw "String" }

def bookshopConfig : ApiConfig := .default ⟨"bookshop", bookshop⟩ {} "Shop"

theorem bean_schemas_describe_the_bean_book :
    ∃ a u ps, (getOrAdd 9 (.raw "Book") bookshopConfig).result {} = (.ok a, u) ∧
      (a.schema.fields.map fun f => (f.name, f.shape)) =
        [("price", .scalar .string), ("sequel", .object ⟨bookshopConfig.rules, .raw "Book"⟩),
          ("shelves", .array (.array (.enum ⟨bookshopConfig.rules, .raw "Genre"⟩))),
            ("title", .scalar .string)] ∧
      bookshop.Publishes bookshopConfig.rules (.raw "Book") ps ∧
      ∀ name, name ∈ a.schema.fields.map (·.name) ↔ name ∈ ps.map (·.name) := by
  obtain ⟨a, u, hcall⟩ : ∃ a u, (getOrAdd 9 (.raw "Book") bookshopConfig).result {} = (.ok a, u) :=
    exists_result_of_isOk (by decide +kernel)
  have hfields : ((getOrAdd 9 (.raw "Book") bookshopConfig).result {}).1.toOption.map
      (·.schema.fields.map fun f => (f.name, f.shape)) =
        some [("price", .scalar .string), ("sequel", .object ⟨bookshopConfig.rules, .raw "Book"⟩),
          ("shelves", .array (.array (.enum ⟨bookshopConfig.rules, .raw "Genre"⟩))),
          ("title", .scalar .string)] := by decide +kernel
  rw [hcall] at hfields
  have hresolved :
      bookshop.schemaType bookshopConfig.rules (.raw "Book") = .ok (.raw "Book") := by rfl
  have hcatalog : bookshopConfig.catalog = bookshop := rfl
  obtain ⟨ps, hps, hnames, -⟩ :=
    bean_schemas_describe_the_bean .new hcatalog hresolved (by decide +kernel)
    (by decide) (by decide +kernel) hcall
  exact ⟨a, u, ps, hcall, Option.some.inj hfields, hps, hnames⟩

end Repository

end ServiceApi
