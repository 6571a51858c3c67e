import ServiceApi.Proofs.Document.Entries
import ServiceApi.Proofs.OrderedMap

/-! # What backend methods take and return

The descriptor tells for each backend method what it takes and returns. It calls a method by the
simple name of its class and its own name, which overloads and classes of one simple name share: of
those the last is described. -/

namespace ServiceApi

open Json Compile Repository

variable {s t u : Repository} {fuel : Nat} {configs : List ApiConfig} {a : ApiConfig} {doc : Json}
  {m : MethodScope}

/-! ## What a method takes and returns -/

/-- What the repository has for a type that a method may have. -/
inductive Kept (u : Repository) : Except ApiError (Option SchemaKey) → Option Schema → Prop
  | nothing : Kept u (.ok none) none
  | schema {key : SchemaKey} {a : Compiled} :
      u.slots.get? key = some (.done a) → Kept u (.ok (some key)) (some a.schema)

theorem Kept.later {K : SchemaKey → Prop} {key? : Except ApiError (Option SchemaKey)}
    {given : Option Schema} (h : Kept s key? given) (hl : Later K s u) : Kept u key? given := by
  cases h with
  | nothing => exact .nothing
  | schema hslot => exact .schema (hl.slots _ _ hslot)

theorem Given.kept {key? : Except ApiError (Option SchemaKey)} {given : Option Schema}
    (h : Given m u key? given) (hnone : given = none → key? = .ok none) : Kept u key? given := by
  cases given with
  | none => exact hnone rfl ▸ .nothing
  | some b =>
    obtain ⟨key, a, rfl, ha, rfl⟩ := h.schema b rfl
    exact .schema ha.slot

theorem Kept.eq_none_iff {key? : Except ApiError (Option SchemaKey)} {given : Option Schema}
    (h : Kept u key? given) : given = none ↔ ∀ key, key? ≠ .ok (some key) := by
  cases h with
  | nothing => simp
  | schema hslot => simp

theorem MethodScope.bodyKey_of_none (h : (m.requestBody fuel).result s = (.ok none, u)) :
    m.bodyKey = .ok none := by
  obtain ⟨p, hp, h⟩ := ok_of_ofExcept h
  cases p with
  | none => rw [bodyKey, hp]; rfl
  | some p =>
    obtain ⟨type, -, h⟩ := ok_of_ofExcept h
    obtain ⟨a, t, -, h⟩ := Compile.ok_of_bind h
    cases h

theorem MethodScope.responseKey_of_none (h : (m.responseSchema fuel).result s = (.ok none, u)) :
    m.responseKey = .ok none := by
  rw [responseSchema] at h
  cases hreturn : m.method.returnType? with
  | none => rw [responseKey, hreturn]; rfl
  | some type =>
    rw [hreturn] at h
    obtain ⟨a, t, -, h⟩ := Compile.ok_of_bind h
    cases h

namespace Legacy

/-- The references of a descriptor. -/
def describe (request response : Option Schema) : List (String × Json) :=
  (request.elim [] fun s => [("request", .obj (Dialect.discovery.use s))])
    ++ (response.elim [] fun s => [("response", .obj (Dialect.discovery.use s))])

/-- A method is described as what it takes and returns. -/
def DescribedAs (u : Repository) (m : MethodScope) (descriptor : List (String × Json)) : Prop :=
  ∃ request response, Kept u m.bodyKey request ∧ Kept u m.responseKey response ∧
    descriptor = describe request response

theorem DescribedAs.later {K : SchemaKey → Prop} {descriptor : List (String × Json)}
    (h : DescribedAs s m descriptor) (hl : Later K s u) : DescribedAs u m descriptor := by
  obtain ⟨request, response, hrequest, hresponse, hd⟩ := h
  exact ⟨request, response, hrequest.later hl, hresponse.later hl, hd⟩

/-- A descriptor is empty if there is nothing to describe. -/
theorem DescribedAs.isEmpty_iff {descriptor : List (String × Json)}
    (h : DescribedAs u m descriptor) : descriptor.isEmpty = true ↔ ∀ key, ¬ m.Sends key := by
  obtain ⟨request, response, hrequest, hresponse, rfl⟩ := h
  have hempty : (describe request response).isEmpty = true ↔ request = none ∧ response = none := by
    cases request <;> cases response <;> simp [describe]
  rw [hempty, hrequest.eq_none_iff, hresponse.eq_none_iff, ← forall_and]
  exact forall_congr' fun key => not_or.symm

theorem entry_describes {K : SchemaKey → Prop} {e : Entry} (hK : ∀ key, m.Sends key → K key)
    (hs : Sound (fun _ => True) s) (h : (entry fuel m).result s = (.ok e, u)) :
    Later K s u ∧ DescribedAs u m e.descriptor := by
  obtain ⟨parameters, -, h⟩ := ok_of_ofExcept h
  obtain ⟨body, t, hbody, h⟩ := Compile.ok_of_bind h
  obtain ⟨response, t', hresponse, h⟩ := Compile.ok_of_bind h
  cases h
  obtain ⟨hl, hb⟩ := requestBody_later hK hs hbody
  obtain ⟨hl', hr⟩ := responseSchema_later hK hl.sound hresponse
  refine ⟨hl.trans hl', body.map (·.schema), response, ?_, ?_, ?_⟩
  · refine (hb.kept fun hnone => ?_).later hl'
    rw [Option.map_eq_none_iff] at hnone
    subst hnone
    exact m.bodyKey_of_none hbody
  · refine hr.kept fun hnone => ?_
    subst hnone
    exact m.responseKey_of_none hresponse
  · cases body <;> rfl

end Legacy

/-! ## Which methods are described -/

theorem Json.objOf_eq (es : List (String × Json)) :
    objOf es = .obj (OrderedMap.ofList es).entries := by
  suffices h : ∀ map : OrderedMap String Json,
      (es.foldl (fun map e => map.insert e.1 e.2) map).entries =
        es.foldl (fun fs e => setField e.1 e.2 fs) map.entries from
          congrArg Json.obj (h .empty).symm
  induction es with
  | nil => exact fun map => rfl
  | cons e es ih => exact fun map => ih (map.insert e.1 e.2)

/-- Of several entries of one name the last stays. -/
theorem Json.lookup_objOf_of_last {name : String} {v : Json} {before after : List (String × Json)}
    (h : name ∉ after.map Prod.fst) :
    (objOf (before ++ (name, v) :: after)).fields.lookup name = some v := by
  have hafter : after.reverse.lookup name = none := by
    rw [Entries.lookup_eq_none_iff, List.map_reverse, List.mem_reverse]
    exact h
  rw [objOf_eq]
  refine (OrderedMap.get?_ofList _ name).trans ?_
  rw [List.reverse_append, List.reverse_cons, List.append_assoc, List.lookup_append,
    hafter, Option.none_or]
  exact List.lookup_cons_self

theorem Json.mem_of_lookup_objOf {name : String} {v : Json} {es : List (String × Json)}
    (h : (objOf es).fields.lookup name = some v) : (name, v) ∈ es := by
  rw [objOf_eq] at h
  exact OrderedMap.mem_of_get?_ofList h

namespace Legacy

/-- Each active method with its descriptor, in order. -/
theorem described_later {entries : List (MethodScope × Entry)} (hs : Sound (fun _ => True) s)
    (h : ((activeMethods configs).mapM fun m => do return (m, ← entry fuel m)).result s =
      (.ok entries, u)) :
    ∀ e ∈ entries, DescribedAs u e.1 e.2.descriptor := by
  obtain ⟨-, hfrom, -⟩ := mapM_later (K := Sent configs)
    (Q := fun m (e : MethodScope × Entry) u => e.1 = m ∧ DescribedAs u m e.2.descriptor)
    (fun m e s u hl hd => ⟨hd.1, hd.2.later hl⟩) (fun m hm s e u hs h => by
      obtain ⟨v, t, hv, h⟩ := Compile.ok_of_bind h
      cases h
      have hsent (key : SchemaKey) (hkey : m.Sends key) : Sent configs key := ⟨m, hm, hkey⟩
      obtain ⟨hl, hd⟩ := entry_describes hsent hs hv
      exact ⟨hl, rfl, hd⟩) hs h
  intro e he
  obtain ⟨m, -, rfl, hd⟩ := hfrom e he
  exact hd

/-- A method that is described is there, unless a later one that is described is called the same. -/
theorem lookup_descriptors {before after : List (MethodScope × Entry)} {e : MethodScope × Entry}
    (he : e.2.descriptor.isEmpty = false)
    (hafter : ∀ e' ∈ after, backendMethod e'.1 = backendMethod e.1 →
      e'.2.descriptor.isEmpty = true) :
    (objOf (descriptors (before ++ e :: after))).fields.lookup (backendMethod e.1) =
      some (.obj e.2.descriptor) := by
  rw [descriptors, List.filter_append, List.filter_cons_of_pos (by simp [he]), List.map_append,
    List.map_cons]
  refine lookup_objOf_of_last fun hmem => ?_
  rw [List.map_map] at hmem
  obtain ⟨e', he', hname⟩ := List.mem_map.mp hmem
  obtain ⟨hmem', hnonempty⟩ := List.mem_filter.mp he'
  simp [hafter e' hmem' hname] at hnonempty

theorem get?_descriptor {entries : List (MethodScope × Entry)}
    {schemas methods : Json} (name : String) : (Json.obj (header a ++ [("methods", methods),
      ("descriptor", .obj [("schemas", schemas), ("methods", objOf (descriptors entries))])])).get?
        ["descriptor", "methods", name] = (objOf (descriptors entries)).fields.lookup name := by
  have hnone : "descriptor" ∈ partNames := by decide
  rw [(avoids_header a).get?_append hnone, get?_obj_cons rfl, get?_obj_cons rfl, Json.get?]
  exact Option.bind_fun_some _

end Legacy

namespace DocumentFormat

open Legacy

/-- The descriptor of a document describes every method that takes or returns something, unless a
later such method is called the same, and it describes nothing else. -/
theorem descriptors_describe_methods {repo : Repository} (hrepo : Reachable repo) {text : String}
    (h : (legacy.render fuel configs).result repo = (.ok text, u)) :
    ∃ a rest doc, configs = a :: rest ∧ text = doc.pretty ∧
      (legacy.document fuel a configs).result repo = (.ok doc, u) ∧
      (∀ before m after, activeMethods configs = before ++ m :: after → (∃ key, m.Sends key) →
        (∀ m' ∈ after, backendMethod m' = backendMethod m → ∀ key, ¬ m'.Sends key) →
        ∃ descriptor, DescribedAs u m descriptor ∧
          doc.get? ["descriptor", "methods", backendMethod m] = some (.obj descriptor)) ∧
      ∀ name json, doc.get? ["descriptor", "methods", name] = some json →
        ∃ m ∈ activeMethods configs, backendMethod m = name ∧
          ∃ descriptor, DescribedAs u m descriptor ∧ json = .obj descriptor := by
  cases configs with
  | nil => cases h
  | cons a rest =>
    obtain ⟨doc, t, hdoc, h⟩ := Compile.ok_of_bind h
    cases h
    obtain ⟨entries, schemas, hentries, rfl⟩ := document_eq hdoc
    have hdescribed := described_later hrepo.sound hentries
    obtain ⟨hmethods, -⟩ := ok_of_mapM hentries
    refine ⟨a, rest, _, rfl, rfl, hdoc, fun before m after hsplit hsends hlast => ?_,
      fun name json hname => ?_⟩
    · rw [← hmethods] at hsplit
      obtain ⟨before, after, rfl, -, hafter⟩ := List.map_eq_append_iff.mp hsplit
      obtain ⟨e, after, rfl, rfl, rfl⟩ := List.map_eq_cons_iff.mp hafter
      have hof {e' : MethodScope × Entry} (he' : e' ∈ before ++ e :: after) :=
        (hdescribed e' he').isEmpty_iff
      have hmem : e ∈ before ++ e :: after := List.mem_append_right _ List.mem_cons_self
      refine ⟨e.2.descriptor, hdescribed e hmem, ?_⟩
      rw [get?_descriptor]
      refine lookup_descriptors ?_ fun e' he' hname => ?_
      · obtain ⟨key, hkey⟩ := hsends
        exact Bool.eq_false_iff.mpr fun hempty => (hof hmem).mp hempty key hkey
      · refine (hof (List.mem_append_right _ (List.mem_cons_of_mem e he'))).mpr ?_
        exact hlast e'.1 (List.mem_map_of_mem he') hname
    · rw [get?_descriptor] at hname
      obtain ⟨e, he, heq⟩ := List.mem_map.mp (mem_of_lookup_objOf hname)
      cases heq
      have hmem := List.mem_of_mem_filter he
      exact ⟨e.1, hmethods ▸ List.mem_map_of_mem hmem, rfl, e.2.descriptor, hdescribed e hmem, rfl⟩

theorem descriptors_describe_methods_node :
    let key : SchemaKey := ⟨nodeConfig.rules, .raw "Node"⟩
    ∃ m doc u descriptor, activeMethods [nodeConfig] = [m] ∧ m.Sends key ∧
      (legacy.document 9 nodeConfig [nodeConfig]).result {} = (.ok doc, u) ∧
        DescribedAs u m descriptor ∧
      doc.get? ["descriptor", "methods", "Service.node"] = some (.obj descriptor) := by
  intro key
  have hactive :
      ∃ m, activeMethods [nodeConfig] = [m] ∧ backendMethod m = "Service.node" ∧ m.Sends key :=
    ⟨⟨nodeConfig, _⟩, rfl, by decide, Or.inr (by rfl)⟩
  obtain ⟨m, hactive, hname, hsends⟩ := hactive
  obtain ⟨doc, u, hdoc, hrender⟩ : ∃ doc u,
      (legacy.document 9 nodeConfig [nodeConfig]).result {} = (.ok doc, u) ∧
      (legacy.render 9 [nodeConfig]).result {} = (.ok doc.pretty, u) :=
    render_of_document (by decide +kernel)
  obtain ⟨a, rest, doc', hcons, -, hdoc', hall, -⟩ := descriptors_describe_methods .new hrender
  obtain ⟨rfl, rfl⟩ := List.cons.inj hcons
  cases hdoc.symm.trans hdoc'
  obtain ⟨descriptor, hdescribed, hfound⟩ :=
    hall [] m [] hactive ⟨key, hsends⟩ fun _ h => (List.not_mem_nil h).elim
  rw [hname] at hfound
  exact ⟨m, doc, u, descriptor, hactive, hsends, hdoc, hdescribed, hfound⟩

end DocumentFormat

/-- A service with two methods of one name: one gives a book, and the other takes it back. -/
def shelfConfig : ApiConfig :=
  let book (name httpMethod : String) (returnType : Option TypeExpr) (parameter : ParameterConfig) :
      MethodConfig :=
    { endpoint := { serviceClass := "Shelf", declaringClass := "Shelf", name := "book",
                    parameterTypes := [parameter.type], returnType }
      name, path := "book", httpMethod, impliedResource := none, parameters := [parameter] }
  let lend := book "shelf.lend" "GET" (some (.raw "Book"))
    { name := some "title", type := .raw "String", nullable := true }
  let takeBack := book "shelf.takeBack" "PUT" none { name := some "book", type := .raw "Book" }
  let library := Catalog.builtin.addClass { name := "Book" }
  (ApiConfig.default ⟨"library", library⟩ {} "Shelf").setMethods <|
    (OrderedMap.empty.insert lend.endpoint.key lend).insert takeBack.endpoint.key takeBack

/-- The descriptor has one method for two, and says of it that it takes a book and returns
nothing. -/
theorem DocumentFormat.overloads_share_a_descriptor :
    let configs := [shelfConfig]
    let book : SchemaKey := ⟨shelfConfig.rules, .raw "Book"⟩
    (Validate.configs 9 configs).isOk = true ∧
      (activeMethods configs).map (fun m =>
        (m.fullName, m.bodyKey.toOption.join, m.responseKey.toOption.join)) =
        [("myapi.shelf.lend", none, some book), ("myapi.shelf.takeBack", some book, none)] ∧
      ((legacy.document 9 shelfConfig configs).result {}).1.toOption.any (fun doc =>
        ((doc.field "descriptor").field "methods").fields.map (fun e =>
          (e.1, (e.2.field "request").fieldText? "$ref",
            (e.2.field "response").fieldText? "$ref")) =
            [("Shelf.book", some "Book", none)]) = true := by
  intro configs book
  exact ⟨by decide +kernel, by decide +kernel, by decide +kernel⟩

end ServiceApi
