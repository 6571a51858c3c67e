import ServiceApi.Proofs.Document.Entries

/-! # Operation ids

The id of an operation is made of the API, its version and the name of the method in its class.
Validation compares the names that methods have within the API, so methods of different classes may
get one id: ids differ exactly where the methods' own names do, the case of their first letters
aside. -/

namespace ServiceApi

open Json Compile

variable {fuel fuel' : Nat} {configs : List ApiConfig} {m m' : MethodScope}
  {s u : Repository} {json doc : Json} {text : String}

namespace OpenApi

/-- The methods that a document has operations of: of several with one path and verb the last. -/
def methods (configs : List ApiConfig) : List MethodScope :=
  lasting DocumentFormat.openApi.address (activeMethods configs)

theorem methods_eq (hvalid : Validate.configs fuel configs = .ok ())
    (hverbs : ∀ m ∈ activeMethods configs, m.method.HasGivenVerb) :
    methods configs = activeMethods configs :=
  lasting_of_nodup ((validated_of_ok hvalid).nodup_address hverbs .openApi)

/-- The ids of all operations of a document. -/
def operationIds (doc : Json) : List (Option String) :=
  (DocumentFormat.openApi.entries doc).map fun e => e.2.fieldText? "operationId"

theorem fieldText?_operation (h : (operation fuel m).result s = (.ok json, u)) :
    json.fieldText? "operationId" = some (operationId m) := by
  obtain ⟨ps, -, h⟩ := ok_of_ofExcept h
  obtain ⟨body, t, -, h⟩ := Compile.ok_of_bind h
  obtain ⟨response, t', -, h⟩ := Compile.ok_of_bind h
  cases h
  rfl

theorem operationIds_document {a : ApiConfig}
    (h : (document fuel a configs).result s = (.ok doc, u)) :
    (operationIds doc).Perm ((methods configs).map fun m => some (operationId m)) := by
  obtain ⟨written, t, servers, components, hwritten, rfl⟩ := document_eq h
  obtain ⟨hmethods, hmade⟩ := ok_of_mapM hwritten
  obtain ⟨-, hperm⟩ := entries_paths written
  refine (hperm.map _).trans (.of_eq ?_)
  rw [methods, ← hmethods, ← map_lasting, List.map_map, List.map_map]
  refine List.map_congr_left fun e he => ?_
  obtain ⟨s, t, hmade⟩ := hmade e (mem_of_mem_lasting he)
  exact fieldText?_operation hmade

/-- Within one API, the method's name alone makes the difference. -/
theorem operationId_eq_iff (h : m.api.name = m'.api.name ∧ m.api.version = m'.api.version) :
    operationId m = operationId m' ↔
      Text.capitalize m.method.endpoint.name = Text.capitalize m'.method.endpoint.name := by
  have hjoin (m : MethodScope) : operationId m =
      "" ++ Text.capitalize m.api.name ++ Text.capitalize m.api.version ++
        Text.capitalize m.method.endpoint.name := rfl
  rw [hjoin, hjoin, h.1, h.2, String.append_right_inj]

/-- The operations of a document of configurations that pass validation have different ids if and
only if their methods have different names in their classes, whatever the case of the first
letters. -/
theorem operation_ids_differ_as_method_names (hvalid : Validate.configs fuel' configs = .ok ())
    (h : (DocumentFormat.openApi.render fuel configs).result s = (.ok text, u)) :
    ∃ a rest doc, configs = a :: rest ∧ text = doc.pretty ∧
      (document fuel a configs).result s = (.ok doc, u) ∧
      (operationIds doc).Perm ((methods configs).map fun m => some (operationId m)) ∧
      ((operationIds doc).Nodup ↔
        ((methods configs).map fun m => Text.capitalize m.method.endpoint.name).Nodup) ∧
      ((∀ m ∈ activeMethods configs, m.method.HasGivenVerb) →
        methods configs = activeMethods configs) := by
  cases configs with
  | nil => cases h
  | cons a rest =>
    obtain ⟨doc, t, hdoc, h⟩ := Compile.ok_of_bind h
    cases h
    obtain ⟨hsame, -⟩ := Validate.configs_ok hvalid
    have hids : ∀ m ∈ methods (a :: rest), ∀ m' ∈ methods (a :: rest),
        some (operationId m) = some (operationId m') ↔
          Text.capitalize m.method.endpoint.name = Text.capitalize m'.method.endpoint.name :=
      fun m hm m' hm' => Option.some_inj.trans (operationId_eq_iff (hsame
        _ (mem_activeMethods (mem_of_mem_lasting hm)) _
          (mem_activeMethods (mem_of_mem_lasting hm'))))
    have hperm := operationIds_document hdoc
    refine ⟨a, rest, doc, rfl, rfl, hdoc, hperm, ?_, methods_eq hvalid⟩
    rw [hperm.nodup_iff]
    exact ⟨fun hnodup => nodup_map_of_nodup_map hnodup fun m hm m' hm' => (hids m hm m' hm').mpr,
      fun hnodup => nodup_map_of_nodup_map hnodup fun m hm m' hm' => (hids m hm m' hm').mp⟩

end OpenApi

/-- A service class with one method, whose path is called after the class. -/
def listing (serviceClass method : String) : ApiConfig :=
  let list : EndpointMethod := { serviceClass, declaringClass := serviceClass, name := method }
  (ApiConfig.default ⟨"library", .builtin⟩ {} serviceClass).setMethods <|
    OrderedMap.empty.insert list.key
      { MethodConfig.ofMethod list with path := Text.decapitalize serviceClass }

namespace OpenApi

theorem operation_ids_differ_as_method_names_listing :
    let configs := [listing "Books" "list", listing "Authors" "listAll"]
    Validate.configs 9 configs = .ok () ∧ ∃ doc u,
      (document 9 (listing "Books" "list") configs).result {} = (.ok doc, u) ∧
      (DocumentFormat.openApi.render 9 configs).result {} = (.ok doc.pretty, u) ∧
        (operationIds doc).Nodup := by
  intro configs
  obtain ⟨⟨⟩, hvalid⟩ : ∃ r, Validate.configs 9 configs = .ok r :=
    exists_of_isOk (by decide +kernel)
  obtain ⟨doc, u, hdoc, hrender⟩ : ∃ doc u,
      (DocumentFormat.openApi.document 9 (listing "Books" "list") configs).result {} =
        (.ok doc, u) ∧
      (DocumentFormat.openApi.render 9 configs).result {} = (.ok doc.pretty, u) :=
    DocumentFormat.render_of_document (by decide +kernel)
  obtain ⟨a, rest, doc', hcons, -, hdoc', -, hids, -⟩ :=
    operation_ids_differ_as_method_names hvalid hrender
  obtain ⟨rfl, rfl⟩ := List.cons.inj hcons
  cases hdoc.symm.trans hdoc'
  exact ⟨hvalid, doc, u, hdoc, hrender, hids.mpr (by decide +kernel)⟩

/-- Two classes that both have a method `list` have one operation id twice. -/
theorem operations_share_an_id :
    let configs := [listing "Books" "list", listing "Authors" "list"]
    Validate.configs 9 configs = .ok () ∧ ∃ doc u,
      (document 9 (listing "Books" "list") configs).result {} = (.ok doc, u) ∧
      (DocumentFormat.openApi.render 9 configs).result {} = (.ok doc.pretty, u) ∧
      (operationIds doc).Perm [some "MyapiV1List", some "MyapiV1List"] ∧
        ¬ (operationIds doc).Nodup := by
  intro configs
  obtain ⟨⟨⟩, hvalid⟩ : ∃ r, Validate.configs 9 configs = .ok r :=
    exists_of_isOk (by decide +kernel)
  obtain ⟨doc, u, hdoc, hrender⟩ : ∃ doc u,
      (DocumentFormat.openApi.document 9 (listing "Books" "list") configs).result {} =
        (.ok doc, u) ∧
      (DocumentFormat.openApi.render 9 configs).result {} = (.ok doc.pretty, u) :=
    DocumentFormat.render_of_document (by decide +kernel)
  have hids : (methods configs).map (fun m => some (operationId m)) =
      [some "MyapiV1List", some "MyapiV1List"] := by decide +kernel
  have hperm := operationIds_document hdoc
  rw [hids] at hperm
  refine ⟨hvalid, doc, u, hdoc, hrender, hperm, ?_⟩
  rw [hperm.nodup_iff]
  decide

end OpenApi

end ServiceApi
