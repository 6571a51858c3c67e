import ServiceApi.Proofs.Document.References
import ServiceApi.Proofs.Document.Resources
import ServiceApi.Proofs.Text
import ServiceApi.Proofs.Validated

/-! # Every method once

The formats file methods under three different keys: full names, the pieces of names, paths and
verbs. In all of them a later method would take the place of an earlier one with its key. Validation
compares full names and signatures, and that is enough for all three. -/

namespace ServiceApi

open Json Compile Repository

variable {s u : Repository} {fuel : Nat} {configs : List ApiConfig} {a : ApiConfig} {doc : Json}

/-- The operations under some paths, each with its path and its verb. -/
def OpenApi.operations (paths : List (String × Json)) : List (List String × Json) :=
  paths.flatMap fun item => item.2.fields.map fun e => ([item.1, e.1], e.2)

namespace DocumentFormat

/-- What a method is written as. -/
def methodJson (fuel : Nat) (m : MethodScope) : DocumentFormat → Compile Json
  | legacy => return (← Legacy.entry fuel m).method
  | discovery => Discovery.method fuel m
  | openApi => OpenApi.operation fuel m

/-- The key that a method is filed under. -/
def address (m : MethodScope) : DocumentFormat → List String
  | legacy => [m.fullName]
  | discovery => Text.pieces '.' m.method.name
  | openApi => ["/" ++ m.method.path, m.method.lowerHttpMethod]

/-- All methods that a document has, with their keys. -/
def entries (doc : Json) : DocumentFormat → List (List String × Json)
  | legacy => (doc.field "methods").fields.map fun e => ([e.1], e.2)
  | discovery => doc.leaves
  | openApi => OpenApi.operations (doc.field "paths").fields

/-- Where the method of a key stands in a document. -/
def location (key : List String) : DocumentFormat → List String
  | legacy => "methods" :: key
  | discovery => ResourceTree.location key
  | openApi => "paths" :: key

/-- `doc` has the methods `ms` and no others. -/
structure Files (format : DocumentFormat) (fuel : Nat) (ms : List MethodScope) (doc : Json)
    (written : List (MethodScope × Json)) : Prop where
  methods : written.map Prod.fst = ms
  /-- Each is there as it is written in this format. -/
  made : ∀ e ∈ written, ∃ s t, (format.methodJson fuel e.1).result s = (.ok e.2, t)
  /-- The methods of the document are these, each under its own key. -/
  entries : (format.entries doc).Perm (written.map fun e => (format.address e.1, e.2))
  /-- Each is found where its key says. -/
  found : ∀ e ∈ written, doc.get? (format.location (format.address e.1)) = some e.2

end DocumentFormat

/-- A document that is made is what its text is of. -/
theorem DocumentFormat.render_of_document {format : DocumentFormat} {rest : List ApiConfig}
    (h : ((format.document fuel a (a :: rest)).result s).1.isOk = true) :
    ∃ doc u, (format.document fuel a (a :: rest)).result s = (.ok doc, u) ∧
      (format.render fuel (a :: rest)).result s = (.ok doc.pretty, u) := by
  obtain ⟨doc, u, hdoc⟩ := exists_result_of_isOk h
  exact ⟨doc, u, hdoc, by rw [render, bind_of_ok hdoc]; rfl⟩

/-! ## Keys of methods that passed validation -/

/-- All are methods of one API, so a name says what the full name is. -/
theorem Validated.fullName_eq (h : Validated configs) {m m' : MethodScope}
    (hm : m ∈ activeMethods configs)
    (hm' : m' ∈ activeMethods configs) (hname : m.method.name = m'.method.name) :
    m.fullName = m'.fullName := by
  rw [MethodScope.fullName, MethodScope.fullName, hname,
    h.name m.api (mem_activeMethods hm) m'.api (mem_activeMethods hm')]

theorem Validated.nodup_address (h : Validated configs)
    (hverbs : ∀ m ∈ activeMethods configs, m.method.HasGivenVerb) (format : DocumentFormat) :
    ((activeMethods configs).map format.address).Nodup := by
  cases format with
  | legacy => exact nodup_map_of_nodup_map h.names fun m _ m' _ heq => (List.cons.inj heq).1
  | discovery =>
    exact nodup_map_of_nodup_map h.names fun m hm m' hm' heq =>
      h.fullName_eq hm hm' (Text.pieces_injective '.' heq)
  | openApi =>
    refine nodup_map_of_nodup_map h.signatures fun m hm m' hm' heq => ?_
    obtain ⟨hpath, hverb⟩ := List.cons.inj heq
    have hpath : m.method.path = m'.method.path := (String.append_right_inj "/").mp hpath
    rw [MethodScope.signature, MethodScope.signature, hpath,
      MethodConfig.httpMethod_of_lower_eq (hverbs m hm) (hverbs m' hm') (List.cons.inj hverb).1]

/-! ## The three formats -/

theorem Json.setField_of_notMem {name : String} {v : Json} {fields : List (String × Json)}
    (h : name ∉ fields.map Prod.fst) : setField name v fields = fields ++ [(name, v)] := by
  have happend := Entries.put_append h (v := v) []
  rwa [List.append_nil] at happend

/-- An object has the entries that it is made from if their keys differ. -/
theorem Json.fields_objOf {es : List (String × Json)} (h : (es.map Prod.fst).Nodup) :
    (objOf es).fields = es := by
  suffices hall : ∀ fs : List (String × Json), ((fs ++ es).map Prod.fst).Nodup →
      es.foldl (fun fs e => setField e.1 e.2 fs) fs = fs ++ es from hall [] h
  clear h
  induction es with
  | nil => exact fun fs _ => (List.append_nil fs).symm
  | cons e es ih =>
    intro fs hnodup
    have hnew : e.1 ∉ fs.map Prod.fst := by
      rw [List.map_append, List.map_cons, List.nodup_middle, List.nodup_cons] at hnodup
      exact fun hmem => hnodup.1 (List.mem_append_left _ hmem)
    rw [List.foldl_cons, setField_of_notMem hnew, ih _ (by simpa using hnodup), List.append_assoc,
      List.singleton_append]

namespace Legacy

/-- The entries of the descriptor, for methods that take or return something. -/
def descriptors (entries : List (MethodScope × Entry)) : List (String × Json) :=
  (entries.filter fun e => !e.2.descriptor.isEmpty).map fun e => (backendMethod e.1,
    .obj e.2.descriptor)

/-- What has been written for the methods stands under their full names and in the descriptor. -/
theorem document_eq (h : (document fuel a configs).result s = (.ok doc, u)) :
    ∃ entries schemas,
      ((activeMethods configs).mapM fun m => do return (m, ← entry fuel m)).result s =
        (.ok entries, u) ∧
      doc = .obj (header a ++ [
        ("methods", objOf (entries.map fun e => (e.1.fullName, e.2.method))),
        ("descriptor",
          .obj [("schemas", schemas), ("methods", objOf (descriptors entries))])]) := by
  obtain ⟨entries, t, hentries, h⟩ := Compile.ok_of_bind h
  obtain ⟨repo, t', hget, h⟩ := Compile.ok_of_bind h
  cases hget
  obtain ⟨schemas, -, h⟩ := ok_of_ofExcept h
  cases h
  exact ⟨entries, schemas, hentries, rfl⟩

theorem files_document (hnodup : ((activeMethods configs).map DocumentFormat.legacy.address).Nodup)
    (h : (document fuel a configs).result s = (.ok doc, u)) :
    ∃ written, DocumentFormat.legacy.Files fuel (activeMethods configs) doc written := by
  obtain ⟨entries, schemas, hentries, rfl⟩ := document_eq h
  obtain ⟨hmethods, hmade⟩ := ok_of_mapM hentries
  rw [← hmethods, List.map_map] at hnodup
  have hkeys : ((entries.map fun e => (e.1.fullName, e.2.method)).map Prod.fst).Nodup := by
    rw [List.map_map]
    exact nodup_map_of_nodup_map hnodup fun e _ e' _ heq => congrArg (fun name => [name]) heq
  have hfields := fields_objOf hkeys
  have hnone : "methods" ∈ partNames := by decide
  refine ⟨entries.map fun e => (e.1, e.2.method), ?_, fun e he => ?_, ?_, fun e he => ?_⟩
  · rw [List.map_map]
    exact hmethods
  · obtain ⟨e, hmem, rfl⟩ := List.mem_map.mp he
    obtain ⟨s, t, hmade⟩ := hmade e hmem
    exact ⟨s, t, by rw [DocumentFormat.methodJson, bind_of_ok hmade]; rfl⟩
  · rw [DocumentFormat.entries, Json.field, Json.fields, List.lookup_append,
      (avoids_header a).lookup hnone, Option.none_or, List.lookup_cons_self, Option.getD_some]
    rw [hfields, List.map_map, List.map_map]
    exact .refl _
  · obtain ⟨e, hmem, rfl⟩ := List.mem_map.mp he
    have hlookup :
      (objOf (entries.map fun e => (e.1.fullName, e.2.method))).fields.lookup e.1.fullName =
        some e.2.method := by
      rw [hfields]
      exact Entries.lookup_of_mem hkeys (List.mem_map_of_mem hmem)
    rw [DocumentFormat.location, (avoids_header a).get?_append hnone,
      get?_obj_cons List.lookup_cons_self, DocumentFormat.address, get?_cons hlookup, Json.get?]

end Legacy

namespace Discovery

theorem leaves_tree {methods : List (MethodScope × Json)}
    (h : (methods.map fun e => DocumentFormat.discovery.address e.1).Nodup) :
    (tree methods).Ordered ∧
      (tree methods).leaves.Perm (methods.map
        fun e => (DocumentFormat.discovery.address e.1, e.2)) := by
  have hstep (t : ResourceTree) (e : MethodScope × Json) (ht : t.Ordered)
      (hnew : DocumentFormat.discovery.address e.1 ∉ t.leaves.map Prod.fst) :
      (t.insertAt (DocumentFormat.discovery.address e.1) e.2).Ordered ∧
        (t.insertAt (DocumentFormat.discovery.address e.1) e.2).leaves.Perm
          ((DocumentFormat.discovery.address e.1, e.2) :: t.leaves) :=
    ResourceTree.leaves_insertAt ht (Text.pieces_ne_nil '.' e.1.method.name) hnew
  have hall := foldl_adds ResourceTree.Ordered ResourceTree.leaves
    (fun e : MethodScope × Json => (DocumentFormat.discovery.address e.1, e.2)) hstep
    ResourceTree.ordered_empty ResourceTree.leaves_empty h
  exact hall

/-- The methods come last, and nothing before looks like them. -/
theorem document_eq (h : (document fuel a configs).result s = (.ok doc, u)) :
    ∃ methods fields t,
      ((activeMethods configs).mapM fun m => do return (m, ← method fuel m)).result s =
        (.ok methods, t) ∧
      Avoids resourceNames fields ∧ doc = .obj (fields ++ (tree methods).fields) := by
  obtain ⟨fields, t, hbody, h⟩ := Compile.ok_of_bind h
  cases h
  obtain ⟨head, hhead, h⟩ := ok_of_ofExcept hbody
  obtain ⟨methods, t, hmethods, h⟩ := Compile.ok_of_bind h
  obtain ⟨repo, t', hget, h⟩ := Compile.ok_of_bind h
  cases hget
  obtain ⟨schemas, hschemas, h⟩ := ok_of_ofExcept h
  cases h
  have hsub : resourceNames ⊆ partNames := by decide
  refine ⟨methods, _, _, hmethods, ?_, congrArg Json.obj (List.append_assoc _ _ _).symm⟩
  simp [mem_resourceNames, (avoids_header hhead).mono hsub, (avoids_authFields _).mono hsub]

theorem files_document
    (hnodup : ((activeMethods configs).map DocumentFormat.discovery.address).Nodup)
    (h : (document fuel a configs).result s = (.ok doc, u)) :
    ∃ written, DocumentFormat.discovery.Files fuel (activeMethods configs) doc written := by
  obtain ⟨methods, fields, t, hmethods, hapart, rfl⟩ := document_eq h
  obtain ⟨hfst, hmade⟩ := ok_of_mapM hmethods
  rw [← hfst, List.map_map] at hnodup
  obtain ⟨hordered, hperm⟩ := leaves_tree hnodup
  refine ⟨methods, hfst, hmade, ?_, fun e he => ?_⟩
  · rw [DocumentFormat.entries, Json.leaves, fieldLeaves_append,
      hapart.fieldLeaves, List.nil_append]
    rwa [← ResourceTree.leaves_fields, Json.leaves] at hperm
  · have hne : DocumentFormat.discovery.address e.1 ≠ [] := Text.pieces_ne_nil '.' e.1.method.name
    obtain ⟨name, hname, path, hpath⟩ := ResourceTree.location_eq_cons hne
    have hfound := hordered.get?_location (hperm.mem_iff.mpr (List.mem_map_of_mem he))
    rw [hpath] at hfound
    rw [DocumentFormat.location, hpath, hapart.get?_append hname, hfound]

end Discovery

namespace OpenApi

/-- No path has two items, and no item has two operations for one verb. -/
structure Separate (paths : List (String × Json)) : Prop where
  items : (paths.map Prod.fst).Nodup
  verbs : ∀ item ∈ paths, (item.2.fields.map Prod.fst).Nodup

theorem separate_nil : Separate [] := ⟨List.nodup_nil, fun _ h => (List.not_mem_nil h).elim⟩

theorem operations_append (paths paths' : List (String × Json)) :
    operations (paths ++ paths') = operations paths ++ operations paths' := List.flatMap_append

theorem mem_operations {paths : List (String × Json)} {path verb : String} {operation : Json} :
    ([path, verb], operation) ∈ operations paths ↔
      ∃ item, (path, item) ∈ paths ∧ (verb, operation) ∈ item.fields := by
  simp [operations]

theorem Separate.nodup_item {paths : List (String × Json)} (h : Separate paths) (path : String) :
    (((paths.lookup path).getD (.obj [])).fields.map Prod.fst).Nodup := by
  cases hl : paths.lookup path with
  | none => exact List.nodup_nil
  | some item => exact h.verbs _ (Entries.mem_of_lookup hl)

/-- A path has the item that is found under it among the others, and is new otherwise. -/
theorem put_path (path : String) (paths : List (String × Json)) : ∃ before after old,
    (∀ item, setField path item paths = before ++ (path, item) :: after) ∧
      operations paths =
        operations before ++ (old.map (fun e => ([path, e.1], e.2)) ++ operations after) ∧
      ((paths.lookup path).getD (.obj [])).fields = old := by
  cases hl : paths.lookup path with
  | none =>
    refine ⟨paths, [], [],
      fun item => setField_of_notMem (Entries.lookup_eq_none_iff.mp hl), ?_, rfl⟩
    simp [operations]
  | some item =>
    obtain ⟨before, after, rfl, hbefore⟩ := List.lookup_eq_some_iff.mp hl
    have hnew : path ∉ before.map Prod.fst := by
      intro hmem
      obtain ⟨e, he, rfl⟩ := List.mem_map.mp hmem
      exact bne_iff_ne.mp (hbefore e he) rfl
    refine ⟨before, after, item.fields, fun item' => ?_, ?_, rfl⟩
    · rw [setField, Entries.put_append hnew, Entries.put, if_pos rfl]
    · rw [operations_append]
      rfl

theorem filter_operations {paths : List (String × Json)} {path verb : String}
    (h : path ∉ paths.map Prod.fst) :
    (operations paths).filter (·.1 ≠ [path, verb]) = operations paths := by
  refine List.filter_eq_self.mpr fun e he => decide_eq_true fun heq => h ?_
  obtain ⟨key, operation⟩ := e
  subst heq
  obtain ⟨item, hitem, -⟩ := mem_operations.mp he
  exact List.mem_map_of_mem hitem

/-- An operation takes the place of one with its path and verb, and leaves the others. -/
theorem addOperation_replaces {paths : List (String × Json)} {m : MethodScope} {operation : Json}
    (h : Separate paths) :
    Separate (addOperation paths m operation) ∧
      (operations (addOperation paths m operation)).Perm
        ((DocumentFormat.openApi.address m, operation) ::
          (operations paths).filter (·.1 ≠ DocumentFormat.openApi.address m)) := by
  rw [DocumentFormat.address]
  obtain ⟨before, after, old, hput, hold, hfound⟩ := put_path ("/" ++ m.method.path) paths
  have hadd : addOperation paths m operation = setField ("/" ++ m.method.path)
      (.obj (setField m.method.lowerHttpMethod operation old)) paths := by
    rw [← hfound]
    rfl
  have hnodup : (old.map Prod.fst).Nodup := hfound ▸ h.nodup_item _
  have hitems : ((addOperation paths m operation).map Prod.fst).Nodup := by
    rw [hadd]
    exact Entries.nodup_put h.items
  refine ⟨⟨hitems, fun item hitem => ?_⟩, ?_⟩
  · rw [hadd] at hitem
    rcases Entries.mem_put hitem with rfl | hitem
    · exact Entries.nodup_put hnodup
    · exact h.verbs item hitem
  · rw [hadd, hput, List.map_append, List.map_cons, List.nodup_middle, List.nodup_cons,
      List.mem_append, not_or] at hitems
    obtain ⟨⟨hbefore, hafter⟩, -⟩ := hitems
    have hothers : (old.map fun e => (["/" ++ m.method.path, e.1], e.2)).filter
          (·.1 ≠ ["/" ++ m.method.path, m.method.lowerHttpMethod]) =
        (old.filter (·.1 ≠ m.method.lowerHttpMethod)).map
          fun e => (["/" ++ m.method.path, e.1], e.2) := by
      rw [List.filter_map]
      congr 1
      refine List.filter_congr fun e _ => ?_
      simp
    have hitem : (operations (("/" ++ m.method.path,
          .obj (setField m.method.lowerHttpMethod operation old)) :: after)).Perm
        ((["/" ++ m.method.path, m.method.lowerHttpMethod], operation) ::
          ((old.filter (·.1 ≠ m.method.lowerHttpMethod)).map
            (fun e => (["/" ++ m.method.path, e.1], e.2)) ++ operations after)) :=
      ((Entries.perm_put hnodup).map _).append_right _
    rw [hadd, hput, hold, operations_append, List.filter_append, List.filter_append,
      filter_operations hbefore, filter_operations hafter, hothers]
    exact (hitem.append_left _).trans List.perm_middle

/-- The operations are added one after the other to no paths at all. -/
theorem document_eq (h : (document fuel a configs).result s = (.ok doc, u)) :
    ∃ written t servers components,
      ((activeMethods configs).mapM fun m => do return (m, ← operation fuel m)).result s =
        (.ok written, t) ∧
      doc = .obj [("openapi", .str "3.1.0"), ("info", info a), ("servers", servers),
        ("paths", .obj (written.foldl (fun paths e => addOperation paths e.1 e.2) [])),
        ("components", components)] := by
  obtain ⟨written, t, hwritten, h⟩ := Compile.ok_of_bind h
  obtain ⟨repo, t', hget, h⟩ := Compile.ok_of_bind h
  cases hget
  obtain ⟨schemas, hschemas, h⟩ := ok_of_ofExcept h
  obtain ⟨server, -, h⟩ := ok_of_ofExcept h
  cases h
  exact ⟨written, _, _, _, hwritten, rfl⟩

/-- Of methods with one path and verb the last has its operation in the document. -/
theorem entries_paths (written : List (MethodScope × Json)) :
    let paths := written.foldl (fun paths e => addOperation paths e.1 e.2) []
    Separate paths ∧ (operations paths).Perm
      ((lasting (fun e => DocumentFormat.openApi.address e.1) written).map fun e =>
        (DocumentFormat.openApi.address e.1, e.2)) :=
  foldl_replaces Separate operations
    (fun e : MethodScope × Json => (DocumentFormat.openApi.address e.1, e.2))
    (fun _ _ hpaths => addOperation_replaces hpaths) written separate_nil rfl

theorem files_document (hnodup : ((activeMethods configs).map DocumentFormat.openApi.address).Nodup)
    (h : (document fuel a configs).result s = (.ok doc, u)) :
    ∃ written, DocumentFormat.openApi.Files fuel (activeMethods configs) doc written := by
  obtain ⟨written, t, servers, components, hwritten, rfl⟩ := document_eq h
  obtain ⟨hmethods, hmade⟩ := ok_of_mapM hwritten
  obtain ⟨hseparate, hperm⟩ := entries_paths written
  rw [← hmethods, List.map_map] at hnodup
  have hlasting : lasting (fun e => DocumentFormat.openApi.address e.1) written = written :=
    lasting_of_nodup hnodup
  rw [hlasting] at hperm
  refine ⟨written, hmethods, hmade, hperm, fun e he => ?_⟩
  obtain ⟨item, hitem, hverb⟩ := mem_operations.mp (hperm.mem_iff.mpr (List.mem_map_of_mem he))
  rw [DocumentFormat.location, DocumentFormat.address, get?_obj_cons rfl,
    get?_obj_cons (Entries.lookup_of_mem hseparate.items hitem),
    get?_cons (Entries.lookup_of_mem (hseparate.verbs _ hitem) hverb), Json.get?]

end OpenApi

namespace DocumentFormat

theorem files_document (format : DocumentFormat)
    (hnodup : ((activeMethods configs).map format.address).Nodup)
    (h : (format.document fuel a configs).result s = (.ok doc, u)) :
    ∃ written, format.Files fuel (activeMethods configs) doc written := by
  cases format with
  | legacy => exact Legacy.files_document hnodup h
  | discovery => exact Discovery.files_document hnodup h
  | openApi => exact OpenApi.files_document hnodup h

/-- A document of configurations that pass validation has every method that is not ignored once,
under its own key and as it is written, and no other. -/
theorem documents_have_every_method_once (format : DocumentFormat) {fuel' : Nat}
    (hvalid : Validate.configs fuel' configs = .ok ())
    (hverbs : ∀ m ∈ activeMethods configs, m.method.HasGivenVerb) {text : String}
    (h : (format.render fuel configs).result s = (.ok text, u)) :
    ∃ a rest doc written, configs = a :: rest ∧ text = doc.pretty ∧
      (format.document fuel a configs).result s = (.ok doc, u) ∧
      ((activeMethods configs).map format.address).Nodup ∧
      format.Files fuel (activeMethods configs) doc written := by
  cases configs with
  | nil => cases h
  | cons a rest =>
    obtain ⟨doc, t, hdoc, h⟩ := Compile.ok_of_bind h
    cases h
    have hnodup := (validated_of_ok hvalid).nodup_address hverbs format
    obtain ⟨written, hfiles⟩ := files_document format hnodup hdoc
    exact ⟨a, rest, doc, written, rfl, rfl, hdoc, hnodup, hfiles⟩

theorem documents_have_every_method_once_node :
    let configs := [nodeConfig]
    Validate.configs 9 configs = .ok () ∧ (∀ m ∈ activeMethods configs, m.method.HasGivenVerb) ∧
      ∃ doc u json, (discovery.document 9 nodeConfig configs).result {} = (.ok doc, u) ∧
        doc.leaves = [(["service", "node"], json)] ∧
        doc.get? ["resources", "service", "methods", "node"] = some json := by
  intro configs
  have hvalid : Validate.configs 9 configs = .ok () := by rfl
  have hverbs : ∀ m ∈ activeMethods configs, m.method.HasGivenVerb := by
    intro m hm
    rw [List.mem_singleton.mp hm]
    exact Or.inl ⟨{ serviceClass := "Service", declaringClass := "Service", name := "list" },
      by decide⟩
  obtain ⟨doc, u, hdoc, hrender⟩ : ∃ doc u,
      (discovery.document 9 nodeConfig configs).result {} = (.ok doc, u) ∧
      (discovery.render 9 configs).result {} = (.ok doc.pretty, u) :=
    render_of_document (by decide +kernel)
  obtain ⟨a, rest, doc', written, hcons, -, hdoc', -, hfiles⟩ :=
    documents_have_every_method_once discovery hvalid hverbs hrender
  obtain ⟨rfl, rfl⟩ := List.cons.inj hcons
  cases hdoc.symm.trans hdoc'
  obtain ⟨⟨m, json⟩, rfl, hm⟩ := List.map_eq_singleton_iff.mp hfiles.methods
  have haddress : discovery.address m = ["service", "node"] := by
    rw [show m = _ from hm]
    decide
  have hentries := List.perm_singleton.mp hfiles.entries
  have hfound := hfiles.found _ List.mem_cons_self
  dsimp only at hentries hfound
  rw [haddress] at hentries hfound
  exact ⟨hvalid, hverbs, doc, u, json, hdoc, hentries, hfound⟩

end DocumentFormat

end ServiceApi
