import ServiceApi.Proofs.Document.Asking
import ServiceApi.Proofs.Document.Methods
import ServiceApi.Proofs.Json.Fields

/-! # Documents define what they refer to

The definitions of a document come from the index of its API, and so does, by the time they are
written, every schema that a method uses. The index was filled over the whole life of the
repository, and the first schema of a name stays in it; but names are all that references are made
of. -/

namespace ServiceApi

open Json Compile Repository

variable {P : String → Prop} {s u : Repository} {fuel : Nat} {api : ApiKey}
  {configs : List ApiConfig}

/-- The types that the methods of some configurations take and return. -/
def Sent (configs : List ApiConfig) (key : SchemaKey) : Prop :=
  ∃ m ∈ activeMethods configs, m.Sends key

/-- The types that a document has references for: those of bodies, and those of fields of the
schemas that it defines. -/
def Mentions (configs : List ApiConfig) (idx : OrderedMap String Compiled)
    (key : SchemaKey) : Prop :=
  Sent configs key ∨ FieldTarget idx key

/-- The references that the document of an API may have. -/
abbrev DocumentRefers (d : Dialect) (configs : List ApiConfig) (api : ApiKey) (repo : Repository) :
    String → Prop :=
  RefersFor d repo.slots (Mentions configs (repo.indexOf api))

theorem definitions_within (configs : List ApiConfig) {d : Dialect} {key : ApiKey} {schemas : Json}
    (hs : Sound (fun _ => True) u) (h : u.definitionsJson d key = .ok schemas) (name : String) :
    FieldWithin (DocumentRefers d configs key.withoutRoot u) name schemas :=
  ((definitionsJson_ok (hs.indexed key.withoutRoot) h).1 name).mono
    fun _ hr => hr.mono fun _ => Or.inr

/-- What is written for the methods of one API refers to what they send, and all of that is held in
the end. -/
theorem methods_later {β : Type} {f : MethodScope → Compile β} {Q : (String → Prop) → β → Prop}
    {d : Dialect} {bs : List (MethodScope × β)}
    (hQ : ∀ {P P' : String → Prop}, (∀ ref, P ref → P' ref) → ∀ b, Q P b → Q P' b)
    (hf : ∀ m s b u, (∀ key, m.Sends key → Sent configs key) → Sound (fun _ => True) s →
      (f m).result s = (.ok b, u) → Written (Sent configs) m s u ∧ Q (MayRefer d m u) b)
    (hapi : ∀ a ∈ configs, a.key.withoutRoot = api) (hs : Sound (fun _ => True) s)
    (h : ((activeMethods configs).mapM fun m => do return (m, ← f m)).result s = (.ok bs, u)) :
    Later (Sent configs) s u ∧ (∀ key, Sent configs key → ∃ a, Holds u api key a) ∧
      ∀ b ∈ bs, Q (DocumentRefers d configs api u) b.2 := by
  let Done (m : MethodScope) (b : MethodScope × β) (u : Repository) : Prop :=
    (∀ key, m.Sends key → ∃ a, Holds u api key a) ∧ Q (RefersFor d u.slots (Sent configs)) b.2
  have hstays : ∀ m b s u, Later (Sent configs) s u → Done m b s → Done m b u := by
    rintro m b s u hl ⟨hheld, hb⟩
    refine ⟨fun key hkey => ?_, hQ (fun ref hr => ?_) b.2 hb⟩
    · obtain ⟨a, ha⟩ := hheld key hkey
      exact ⟨a, ha.later hl⟩
    · obtain ⟨key, a, hkey, ha, hr⟩ := hr
      exact ⟨key, a, hkey, hl.slots key _ ha, hr⟩
  obtain ⟨hl, hfrom, hto⟩ := mapM_later hstays (fun m hm s b u hs h => by
    obtain ⟨v, t, hv, h⟩ := Compile.ok_of_bind h
    cases h
    have hsent : ∀ key, m.Sends key → Sent configs key := fun key hkey => ⟨m, hm, hkey⟩
    obtain ⟨hw, hq⟩ := hf m s v u hsent hs hv
    refine ⟨hw.later, fun key hkey => ?_, hQ (fun ref hr => hr.mono hsent) v hq⟩
    rw [← hapi m.api (mem_activeMethods hm)]
    exact hw.held key hkey) hs h
  refine ⟨hl, fun key hkey => ?_, fun b hb => ?_⟩
  · obtain ⟨m, hm, hkey⟩ := hkey
    obtain ⟨b, -, hheld, -⟩ := hto m hm
    exact hheld key hkey
  · obtain ⟨m, -, -, hq⟩ := hfrom b hb
    exact hQ (fun ref hr => hr.mono fun _ => Or.inl) b.2 hq

/-! ## Where the definitions stand -/

/-- The value of a field; null if there is none. -/
def Json.field (v : Json) (name : String) : Json := (v.fields.lookup name).getD .null

/-- `doc` refers to what the configurations send and to what the fields of its definitions, which
are `schemas`, refer to. -/
structure Closes (d : Dialect) (configs : List ApiConfig) (key : ApiKey) (s u : Repository)
    (doc schemas : Json) : Prop where
  later : Later (Sent configs) s u
  held : ∀ k, Sent configs k → ∃ a, Holds u key.withoutRoot k a
  refers : doc.RefersWithin (DocumentRefers d configs key.withoutRoot u)
  definitions : u.definitionsJson d key = .ok schemas

namespace Closes

variable {d : Dialect} {key : ApiKey} {doc schemas : Json} {k : SchemaKey}

/-- Whatever is mentioned is held. -/
theorem holds (h : Closes d configs key s u doc schemas)
    (hk : Mentions configs (u.indexOf key.withoutRoot) k) : ∃ a, Holds u key.withoutRoot k a := by
  rcases hk with hk | ⟨e, he, ht⟩
  · exact h.held k hk
  · have hidx := h.later.sound.indexed key.withoutRoot
    obtain ⟨key', hkey'⟩ := hidx.kept e he
    obtain ⟨a, ha⟩ := h.later.sound.settled.closed hkey' ht
    exact ⟨a, ha, (hidx.reached e he k ht a ha).resolve_right List.not_mem_nil⟩

/-- Under the name of a schema that is held stands the definition of a schema of that name. -/
theorem definition (h : Closes d configs key s u doc schemas) {a : Compiled}
    (ha : Holds u key.withoutRoot k a) (hany : a.schema.isAny = false) :
    ∃ b, (a.schema.name, b) ∈ (u.indexOf key.withoutRoot).entries ∧
      b.schema.name = a.schema.name ∧ ∃ json, b.schema.toJson d u = .ok json ∧
        schemas.fields.lookup a.schema.name = some json := by
  have hidx := h.later.sound.indexed key.withoutRoot
  obtain ⟨b, hb⟩ := OrderedMap.contains_iff.mp (ha.reached.resolve_left (by simp [hany]))
  have hentry := OrderedMap.mem_entries_iff.mpr hb
  exact ⟨b, hentry, (hidx.named _ hentry).1.symm,
    (definitionsJson_ok hidx h.definitions).2 _ hentry⟩

theorem defined (h : Closes d configs key s u doc schemas) {ref : String} (hr : doc.Refers ref) :
    ∃ name ∈ schemas.fields.map Prod.fst, ref = d.pointer name := by
  obtain ⟨k, a, hk, ha, hany, rfl⟩ := h.refers ref hr
  obtain ⟨a', ha'⟩ := h.holds hk
  cases ha.symm.trans ha'.slot
  obtain ⟨b, -, -, json, -, hjson⟩ := h.definition ha' hany
  exact ⟨_, List.mem_map_of_mem (Entries.mem_of_lookup hjson), rfl⟩

end Closes

theorem Json.Refers.of_field {v : Json} {name ref : String} (h : (v.field name).Refers ref) :
    v.Refers ref := by
  rw [Json.field] at h
  cases hl : v.fields.lookup name with
  | none => rw [hl] at h; cases h
  | some w =>
    rw [hl] at h
    cases v with
    | obj fields => exact .field (Entries.mem_of_lookup hl) h
    | _ => cases hl

/-- The text of a field. -/
def Json.fieldText? (v : Json) (name : String) : Option String :=
  match v.field name with
  | .str text => some text
  | _ => none

theorem Json.refers_of_fieldText? {v : Json} {ref : String} (h : v.fieldText? "$ref" = some ref) :
    v.Refers ref := by
  rw [Json.fieldText?] at h
  split at h
  · rename_i text hfield
    cases h
    rw [Json.field] at hfield
    cases hl : v.fields.lookup "$ref" with
    | none => rw [hl] at hfield; cases hfield
    | some w =>
      rw [hl] at hfield
      cases v with
      | obj fields => cases hfield; exact .here (Entries.mem_of_lookup hl)
      | _ => cases hl
  · cases h

@[simp] theorem PackageNaming.fieldsWithin_fields (n : PackageNaming) :
    FieldsWithin P n.fields := by
  simp [fields]

/-! ## The three formats -/

namespace Discovery

theorem avoids_header {a : ApiConfig} {fields : List (String × Json)} (h : header a = .ok fields) :
    Avoids partNames fields := by
  obtain ⟨root, -, h⟩ := ok_of_bind h
  obtain ⟨base, -, h⟩ := ok_of_bind h
  cases h
  simp [mem_partNames]

theorem fieldsWithin_header {a : ApiConfig} {fields : List (String × Json)}
    (h : header a = .ok fields) : FieldsWithin P fields := by
  obtain ⟨root, -, h⟩ := ok_of_bind h
  obtain ⟨base, -, h⟩ := ok_of_bind h
  cases h
  simp [standardParameters, queryString]

theorem avoids_authFields (ms : List MethodScope) : Avoids partNames (authFields ms) := by
  simp [authFields, mem_partNames]

theorem fieldsWithin_authFields (ms : List MethodScope) : FieldsWithin P (authFields ms) := by
  simp [authFields]

theorem within_tree {methods : List (MethodScope × Json)}
    (h : ∀ e ∈ methods, ∀ name, FieldWithin P name e.2) : (tree methods).Within P := by
  suffices hfold : ∀ t : ResourceTree, t.Within P →
      (methods.foldl (fun t e => t.insertAt (Text.pieces '.' e.1.method.name) e.2) t).Within P
    from hfold _ ResourceTree.within_empty
  induction methods with
  | nil => exact fun t ht => ht
  | cons e methods ih =>
    exact fun t ht => ih (fun e' he' => h e' (List.mem_cons_of_mem e he')) _
      (ht.insertAt (h e List.mem_cons_self))

theorem document_closes {a : ApiConfig} {doc : Json}
    (hapi : ∀ b ∈ configs, b.key.withoutRoot = a.key.withoutRoot) (hs : Sound (fun _ => True) s)
    (h : (document fuel a configs).result s = (.ok doc, u)) :
    Closes .discovery configs a.key s u doc (doc.field "schemas") := by
  obtain ⟨fields, t, hbody, h⟩ := Compile.ok_of_bind h
  cases h
  obtain ⟨head, hhead, h⟩ := ok_of_ofExcept hbody
  obtain ⟨methods, t, hmethods, h⟩ := Compile.ok_of_bind h
  obtain ⟨repo, t', hget, h⟩ := Compile.ok_of_bind h
  cases hget
  obtain ⟨schemas, hschemas, h⟩ := ok_of_ofExcept h
  cases h
  obtain ⟨hl, hheld, hm⟩ := methods_later (Q := fun P v => ∀ name, FieldWithin P name v)
    (fun hPQ v hv name => (hv name).mono hPQ) (fun m s v u => method_later) hapi hs hmethods
  refine ⟨hl, hheld, ?_, hschemas.trans (congrArg Except.ok ?_)⟩
  · have hdefined := definitions_within configs hl.sound hschemas
    have htree := ResourceTree.fieldsWithin_fields (within_tree hm)
    rw [refersWithin_obj]
    simp [fieldsWithin_header hhead, fieldsWithin_authFields, hdefined, htree]
  · have hnone : "schemas" ∈ partNames := by decide
    simp [Json.field, Json.fields, List.lookup_append, List.lookup_cons,
      (avoids_header hhead).lookup hnone, (avoids_authFields _).lookup hnone]

end Discovery

namespace Legacy

theorem avoids_header (a : ApiConfig) : Avoids partNames (header a) := by
  simp [header, mem_partNames]

theorem fieldsWithin_header (a : ApiConfig) : FieldsWithin P (header a) := by
  simp [header, backendDeadline, frontendLimits, limitRule, limitMetric, issuer, CacheKind.toJson,
    Json.list, refersWithin_obj]

theorem document_closes {a : ApiConfig} {doc : Json}
    (hapi : ∀ b ∈ configs, b.key.withoutRoot = a.key.withoutRoot) (hs : Sound (fun _ => True) s)
    (h : (document fuel a configs).result s = (.ok doc, u)) :
    Closes .discovery configs a.key s u doc ((doc.field "descriptor").field "schemas") := by
  obtain ⟨entries, t, hentries, h⟩ := Compile.ok_of_bind h
  obtain ⟨repo, t', hget, h⟩ := Compile.ok_of_bind h
  cases hget
  obtain ⟨schemas, hschemas, h⟩ := ok_of_ofExcept h
  cases h
  obtain ⟨hl, hheld, hm⟩ := methods_later
    (Q := fun P (e : Entry) => (∀ name, FieldWithin P name e.method) ∧ FieldsWithin P e.descriptor)
    (fun hPQ e he => ⟨fun name => (he.1 name).mono hPQ, he.2.mono hPQ⟩)
    (fun m s e u => entry_later) hapi hs hentries
  refine ⟨hl, hheld, ?_, hschemas.trans (congrArg Except.ok ?_)⟩
  · have hdefined := definitions_within configs hl.sound hschemas
    have hall : FieldsWithin (DocumentRefers .discovery configs a.key.withoutRoot u)
        (entries.map fun e => (e.1.fullName, e.2.method)) :=
      (fieldsWithin_map _ _).mpr fun e he => (hm e he).1 e.1.fullName
    have hdescribed : FieldsWithin (DocumentRefers .discovery configs a.key.withoutRoot u)
        ((entries.filter fun e => !e.2.descriptor.isEmpty).map fun e =>
          (backendMethod e.1, .obj e.2.descriptor)) :=
      (fieldsWithin_map _ _).mpr fun e he =>
        (fieldWithin_obj _ _).mpr (hm e (List.mem_filter.mp he).1).2
    rw [refersWithin_obj]
    simp [fieldsWithin_header, hdefined, fieldWithin_objOf _ hall, fieldWithin_objOf _ hdescribed]
  · have hnone : "descriptor" ∈ partNames := by decide
    simp [Json.field, Json.fields, List.lookup_append, List.lookup_cons,
      (avoids_header a).lookup hnone]

end Legacy

namespace OpenApi

theorem fieldsWithin_paths {operations : List (MethodScope × Json)}
    (h : ∀ e ∈ operations, ∀ name, FieldWithin P name e.2) :
    FieldsWithin P (operations.foldl (fun paths e => addOperation paths e.1 e.2) []) := by
  suffices hfold : ∀ paths, FieldsWithin P paths →
      FieldsWithin P (operations.foldl (fun paths e => addOperation paths e.1 e.2) paths)
    from hfold [] fieldsWithin_nil
  induction operations with
  | nil => exact fun paths hpaths => hpaths
  | cons e operations ih =>
    exact fun paths hpaths => ih (fun e' he' => h e' (List.mem_cons_of_mem e he')) _
      (fieldsWithin_addOperation hpaths (h e List.mem_cons_self))

theorem document_closes {a : ApiConfig} {doc : Json}
    (hapi : ∀ b ∈ configs, b.key.withoutRoot = a.key.withoutRoot) (hs : Sound (fun _ => True) s)
    (h : (document fuel a configs).result s = (.ok doc, u)) :
    Closes .openApi configs a.key s u doc ((doc.field "components").field "schemas") := by
  obtain ⟨operations, t, hoperations, h⟩ := Compile.ok_of_bind h
  obtain ⟨repo, t', hget, h⟩ := Compile.ok_of_bind h
  cases hget
  obtain ⟨schemas, hschemas, h⟩ := ok_of_ofExcept h
  obtain ⟨server, -, h⟩ := ok_of_ofExcept h
  cases h
  obtain ⟨hl, hheld, hm⟩ := methods_later (Q := fun P v => ∀ name, FieldWithin P name v)
    (fun hPQ v hv name => (hv name).mono hPQ) (fun m s v u => operation_later) hapi hs hoperations
  refine ⟨hl, hheld, ?_, hschemas.trans (congrArg Except.ok ?_)⟩
  · have hdefined := definitions_within configs hl.sound hschemas
    have hpaths := fieldsWithin_paths hm
    rw [refersWithin_obj]
    simp [info, securitySchemes, hdefined, hpaths, refersWithin_obj]
  · simp [Json.field, Json.fields, List.lookup_cons]

end OpenApi

/-! ## All documents -/

namespace DocumentFormat

/-- The part of a document that defines schemas. -/
def schemaSection (doc : Json) : DocumentFormat → Json
  | legacy => (doc.field "descriptor").field "schemas"
  | discovery => doc.field "schemas"
  | openApi => (doc.field "components").field "schemas"

theorem document_closes (format : DocumentFormat) {a : ApiConfig} {doc : Json}
    (hapi : ∀ b ∈ configs, b.key.withoutRoot = a.key.withoutRoot)
    (hs : Sound (fun _ => True) s) (h : (format.document fuel a configs).result s = (.ok doc, u)) :
    Closes format.dialect configs a.key s u doc (format.schemaSection doc) := by
  cases format with
  | legacy => exact Legacy.document_closes hapi hs h
  | discovery => exact Discovery.document_closes hapi hs h
  | openApi => exact OpenApi.document_closes hapi hs h

/-- However far a repository has been used, every reference in a document of one API names a schema
that the document defines. -/
theorem documents_define_their_references {repo : Repository} (hrepo : Reachable repo)
    (format : DocumentFormat) (fuel : Nat) (configs : List ApiConfig)
    (hgroup : ∀ a ∈ configs, ∀ b ∈ configs, a.name = b.name ∧ a.version = b.version)
    {text : String} (h : (format.render fuel configs).result repo = (.ok text, u)) :
    ∃ a rest doc, configs = a :: rest ∧ text = doc.pretty ∧
      (format.document fuel a configs).result repo = (.ok doc, u) ∧
      ∀ ref, doc.Refers ref → ∃ name ∈ (format.schemaSection doc).fields.map Prod.fst,
        ref = format.dialect.pointer name := by
  cases configs with
  | nil => cases h
  | cons a rest =>
    obtain ⟨doc, t, hdoc, h⟩ := Compile.ok_of_bind h
    cases h
    have hapi : ∀ b ∈ a :: rest, b.key.withoutRoot = a.key.withoutRoot := by
      intro b hb
      obtain ⟨hname, hversion⟩ := hgroup b hb a List.mem_cons_self
      rw [ApiConfig.key, ApiConfig.key, ApiKey.withoutRoot, ApiKey.withoutRoot, hname, hversion]
    exact ⟨a, rest, doc, rfl, rfl, hdoc,
      fun ref hr => (document_closes format hapi hrepo.sound hdoc).defined hr⟩

/-- A service whose method returns the class that refers to itself. -/
def nodeConfig : ApiConfig :=
  let node : EndpointMethod :=
    { serviceClass := "Service", declaringClass := "Service", name := "node",
      returnType := some (.raw "Node") }
  selfReferringConfig.setMethods <| OrderedMap.empty.insert node.key
    { endpoint := node, name := "service.node", path := "node", httpMethod := "GET",
      impliedResource := none }

theorem documents_define_their_references_node :
    let configs := [nodeConfig, { nodeConfig with root := "https://example.com/_ah/api" }]
    ∃ doc u, (legacy.document 9 nodeConfig configs).result {} = (.ok doc, u) ∧ doc.Refers "Node" ∧
      ∃ name ∈ (legacy.schemaSection doc).fields.map Prod.fst, "Node" = name := by
  intro configs
  have hgroup : ∀ a ∈ configs, ∀ b ∈ configs, a.name = b.name ∧ a.version = b.version := by
    have hall : ∀ a ∈ configs, a.name = nodeConfig.name ∧ a.version = nodeConfig.version := by
      simp [configs]
    exact fun a ha b hb => ⟨(hall a ha).1.trans (hall b hb).1.symm,
      (hall a ha).2.trans (hall b hb).2.symm⟩
  have hused : ((legacy.document 9 nodeConfig configs).result {}).1.toOption.any (fun doc =>
      ((((doc.field "descriptor").field "methods").field "Service.node").field
        "response").fieldText? "$ref" = some "Node") = true := by decide +kernel
  rcases hr : (legacy.document 9 nodeConfig configs).result {} with ⟨r, u⟩
  rw [hr] at hused
  cases r with
  | error e => cases hused
  | ok doc =>
    have href : doc.Refers "Node" :=
      (Json.refers_of_fieldText? (of_decide_eq_true hused)).of_field.of_field.of_field.of_field
    have hrender : (legacy.render 9 configs).result {} = (.ok doc.pretty, u) := by
      rw [render, bind_of_ok hr]
      rfl
    obtain ⟨a, rest, doc', hcons, -, hdoc, hdefined⟩ :=
      documents_define_their_references .new legacy 9 configs hgroup hrender
    obtain ⟨rfl, -⟩ := List.cons.inj hcons
    rw [hr] at hdoc
    cases hdoc
    exact ⟨doc, u, rfl, href, hdefined "Node" href⟩

end DocumentFormat

end ServiceApi
