import ServiceApi.Proofs.Document.References

/-! # What references stand for

A reference is a name, and the definition under it is that of whichever schema the index has by this
name. On a new repository this is a schema of a type that the API uses. It is the one of the type
that the reference is for, unless the API uses types of one name with schemas that differ: simple
names do not tell packages apart. -/

namespace ServiceApi

open Compile Repository

variable {configs : List ApiConfig}

/-- No other schema in use has its name. -/
def Unrivalled (K : SchemaKey → Prop) (slots : Slots) (s : Schema) : Prop :=
  ∀ a, InUse K slots a → a.schema.name = s.name → a.schema = s

namespace DocumentFormat

/-- Every reference in a document is for a type that the document mentions. Under the name of such a
type stands the rendering of a schema that is in use by this name, and so that of the type's own
schema if no other has the name. -/
theorem references_mean_their_types (format : DocumentFormat) (fuel : Nat)
    (configs : List ApiConfig)
    (hgroup : ∀ a ∈ configs, ∀ b ∈ configs, a.name = b.name ∧ a.version = b.version)
    {text : String} {u : Repository} (h : (format.render fuel configs).result {} = (.ok text, u)) :
    ∃ a rest doc, configs = a :: rest ∧ text = doc.pretty ∧
      (format.document fuel a configs).result {} = (.ok doc, u) ∧
      (∀ ref, doc.Refers ref → ∃ key s, Mentions configs (u.indexOf a.key.withoutRoot) key ∧
        u.slots.get? key = some (.done s) ∧ s.schema.isAny = false ∧
        ref = format.dialect.pointer s.schema.name) ∧
      ∀ key, Mentions configs (u.indexOf a.key.withoutRoot) key → ∃ s,
        u.slots.get? key = some (.done s) ∧ (s.schema.isAny = false →
          ∃ json, (format.schemaSection doc).fields.lookup s.schema.name = some json ∧
            (∃ b, InUse (Sent configs) u.slots b ∧ b.schema.name = s.schema.name ∧
              b.schema.toJson format.dialect u = .ok json) ∧
            (Unrivalled (Sent configs) u.slots s.schema →
              s.schema.toJson format.dialect u = .ok json)) := by
  cases configs with
  | nil => cases h
  | cons a rest =>
    obtain ⟨doc, t, hdoc, h⟩ := Compile.ok_of_bind h
    cases h
    have hapi : ∀ b ∈ a :: rest, b.key.withoutRoot = a.key.withoutRoot := by
      intro b hb
      obtain ⟨hname, hversion⟩ := hgroup b hb a List.mem_cons_self
      simp only [ApiConfig.key, ApiKey.withoutRoot, hname, hversion]
    have hcloses := document_closes format hapi (.new _) hdoc
    refine ⟨a, rest, doc, rfl, rfl, hdoc, hcloses.refers, fun key hkey => ?_⟩
    obtain ⟨s, hs⟩ := hcloses.holds hkey
    refine ⟨s, hs.slot, fun hany => ?_⟩
    obtain ⟨b, hb, hname, json, hjson, hlookup⟩ := hcloses.definition hs hany
    -- The index was empty, so all that is in it is in use.
    have hused : InUse (Sent (a :: rest)) u.slots b :=
      (hcloses.later.entries a.key.withoutRoot _ hb).resolve_left List.not_mem_nil
    refine ⟨json, hlookup, ⟨b, hused, hname, hjson⟩, fun hone => ?_⟩
    rw [← hone b hused hname]
    exact hjson

theorem references_mean_their_types_node :
    let key : SchemaKey := ⟨nodeConfig.rules, .raw "Node"⟩
    ∃ doc u s json, (legacy.document 9 nodeConfig [nodeConfig]).result {} = (.ok doc, u) ∧
      u.slots.get? key = some (.done s) ∧
      (legacy.schemaSection doc).fields.lookup "Node" = some json ∧
      s.schema.toJson .discovery u = .ok json := by
  intro key
  let node : Schema := { name := "Node", fields := [{ name := "next", shape := .object key }] }
  have hgroup :
      ∀ a ∈ [nodeConfig], ∀ b ∈ [nodeConfig], a.name = b.name ∧ a.version = b.version := by
    simp
  have hsent : Sent [nodeConfig] key :=
    ⟨⟨nodeConfig, _⟩, List.mem_singleton.mpr rfl, Or.inr (by rfl)⟩
  have hok : ((legacy.document 9 nodeConfig [nodeConfig]).result {}).1.isOk = true := by
    decide +kernel
  have hslot : ((legacy.document 9 nodeConfig [nodeConfig]).result {}).2.slots.get? key =
      some (.done ⟨.built key, node⟩) := by decide +kernel
  have hall : ((legacy.document 9 nodeConfig [nodeConfig]).result {}).2.slots.finished.all
      (fun a => a.schema.name = "Node" → a.schema = node) = true := by decide +kernel
  rcases hr : (legacy.document 9 nodeConfig [nodeConfig]).result {} with ⟨r, u⟩
  rw [hr] at hok hslot hall
  cases r with
  | error e => cases hok
  | ok doc =>
    have hrender : (legacy.render 9 [nodeConfig]).result {} = (.ok doc.pretty, u) := by
      rw [render, bind_of_ok hr]
      rfl
    obtain ⟨a, rest, doc', hcons, -, hdoc, -, hmeans⟩ :=
      references_mean_their_types legacy 9 [nodeConfig] hgroup hrender
    obtain ⟨rfl, rfl⟩ := List.cons.inj hcons
    rw [hr] at hdoc
    cases hdoc
    obtain ⟨s, hs, hmeans⟩ := hmeans key (Or.inl hsent)
    cases hslot.symm.trans hs
    have hone : Unrivalled (Sent [nodeConfig]) u.slots node := by
      rintro b ⟨k, -, hb⟩ hname
      exact of_decide_eq_true (List.all_eq_true.mp hall b (Slots.mem_finished hb)) hname
    obtain ⟨json, hlookup, -, hjson⟩ := hmeans rfl
    exact ⟨doc, u, _, json, rfl, hslot, hlookup, hjson hone⟩

end DocumentFormat

/-- Two packages with a class of the same name. -/
def packages : Catalog :=
  (Catalog.builtin.addClass
    { name := "com.a.Foo", properties := [{ name := "x", type := .raw "String" }] }).addClass
    { name := "com.b.Foo", properties := [{ name := "y", type := .raw "Integer" }] }

/-- A service that returns both. -/
def packagesConfig : ApiConfig :=
  let method (name type : String) : MethodConfig :=
    { endpoint := { serviceClass := "Service", declaringClass := "Service", name,
                    returnType := some (.raw type) }
      name := "service." ++ name, path := name, httpMethod := "GET", impliedResource := none }
  let first := method "first" "com.a.Foo"
  let second := method "second" "com.b.Foo"
  ApiConfig.setMethods (.default ⟨"packages", packages⟩ {} "Service") <|
    (OrderedMap.empty.insert first.endpoint.key first).insert second.endpoint.key second

namespace DocumentFormat

/-- The document refers to the class of the second package, and defines that of the first. -/
theorem packages_share_a_definition :
    let configs := [packagesConfig]
    let key : SchemaKey := ⟨packagesConfig.rules, .raw "com.b.Foo"⟩
    (Validate.configs 9 configs).isOk = true ∧ Sent configs key ∧
      ∃ doc u s json, (legacy.document 9 packagesConfig configs).result {} = (.ok doc, u) ∧
        u.slots.get? key = some (.done s) ∧ s.schema.isAny = false ∧
        (legacy.schemaSection doc).fields.lookup s.schema.name = some json ∧
        s.schema.toJson .discovery u ≠ .ok json := by
  intro configs key
  let foo : Schema := { name := "Foo", fields := [{ name := "y", shape := .scalar .int32 }] }
  have hsent : Sent configs key :=
    ⟨⟨packagesConfig, _⟩, List.mem_cons_of_mem _ (List.mem_singleton.mpr rfl), Or.inr (by rfl)⟩
  refine ⟨by decide +kernel, hsent, ?_⟩
  have hslot : ((legacy.document 9 packagesConfig configs).result {}).2.slots.get? key =
      some (.done ⟨.built key, foo⟩) := by decide +kernel
  have htexts : (((legacy.document 9 packagesConfig configs).result {}).1.toOption.bind
      fun doc => (legacy.schemaSection doc).fields.lookup "Foo").any (fun json =>
        some json.compact ≠ (foo.toJson .discovery
          ((legacy.document 9 packagesConfig configs).result {}).2).toOption.map Json.compact) =
      true := by decide +kernel
  rcases hr : (legacy.document 9 packagesConfig configs).result {} with ⟨r, u⟩
  rw [hr] at hslot htexts
  cases r with
  | error e => cases htexts
  | ok doc =>
    obtain ⟨json, hjson, hne⟩ := (Option.any_eq_true _ _).mp htexts
    refine ⟨doc, u, _, json, rfl, hslot, rfl, hjson, fun hsame => of_decide_eq_true hne ?_⟩
    rw [hsame]
    rfl

end DocumentFormat

end ServiceApi
