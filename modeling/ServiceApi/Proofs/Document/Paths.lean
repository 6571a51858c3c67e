import ServiceApi.Proofs.Document.Entries
import ServiceApi.Proofs.Validated.Routes

/-! # Path templates

Operations stand under the path of their method, as it is written. Paths that differ in the names of
placeholders alone are one template, though, for clients as well as for validation. Validation looks
at them for one HTTP method at a time. So a document has a template twice just where methods that
answer to different HTTP methods call a placeholder differently. -/

namespace ServiceApi

open Json Compile

variable {fuel fuel' : Nat} {configs : List ApiConfig} {m m' : MethodScope}
  {s u : Repository} {doc : Json} {text path path' : String}

namespace Path

theorem blanked_slash (path : String) : blanked ("/" ++ path) = "/" ++ blanked path := by
  have hslash : ("/" ++ path).toList = '/' :: path.toList := String.toList_append
  simp only [← String.toList_inj, String.toList_append, blanked, String.toList_ofList, hslash]
  rfl

theorem blanked_slash_inj :
    blanked ("/" ++ path) = blanked ("/" ++ path') ↔ blanked path = blanked path' := by
  rw [blanked_slash, blanked_slash, String.append_right_inj]

theorem isBalanced_slash (path : String) : isBalanced ("/" ++ path) = isBalanced path := by
  have hslash : ("/" ++ path).toList = '/' :: path.toList := String.toList_append
  rw [isBalanced, isBalanced, hslash]
  rfl

end Path

/-- Methods that answer to one HTTP method on one template are one method. -/
theorem Validated.eq_of_template (h : Validated configs) (hm : m ∈ activeMethods configs)
    (hm' : m' ∈ activeMethods configs) (hverb : m.method.httpMethod = m'.method.httpMethod)
    (hpath : Path.blanked m.method.path = Path.blanked m'.method.path) : m = m' :=
  List.inj_on_of_nodup_map h.signatures hm hm' (Prod.ext hverb hpath)

namespace OpenApi

/-- The paths of a document, each with its operations. -/
def items (doc : Json) : List (String × Json) := (doc.field "paths").fields

def templates (doc : Json) : List String := (items doc).map Prod.fst

/-- The verbs that a path has operations for. -/
def verbs (item : Json) : List String := item.fields.map Prod.fst

/-- No two paths are the same without the names of their placeholders. -/
def Unambiguous (doc : Json) : Prop := ((templates doc).map Path.blanked).Nodup

theorem mem_paths_addOperation (paths : List (String × Json)) (m : MethodScope) (operation : Json) :
    path ∈ (addOperation paths m operation).map Prod.fst ↔
      path ∈ paths.map Prod.fst ∨ path = "/" ++ m.method.path := by
  rw [addOperation, setField, Entries.keys_put]
  split
  · rename_i hmem
    exact ⟨Or.inl, fun h => h.elim id fun heq => heq ▸ hmem⟩
  · rw [List.mem_append, List.mem_singleton]

/-- Operations are added under their own paths. -/
theorem mem_paths_foldl (written : List (MethodScope × Json)) (paths : List (String × Json)) :
    path ∈ (written.foldl (fun paths e => addOperation paths e.1 e.2) paths).map Prod.fst ↔
      path ∈ paths.map Prod.fst ∨ ∃ e ∈ written, path = "/" ++ e.1.method.path := by
  induction written generalizing paths with
  | nil => simp
  | cons e written ih =>
    rw [List.foldl_cons, ih, mem_paths_addOperation, List.exists_mem_cons_iff, or_assoc]

/-- The paths are those of the active methods, each once, and have operations for the verbs of
these. -/
structure HasPathsOf (doc : Json) (configs : List ApiConfig) : Prop where
  distinct : (templates doc).Nodup
  mem_iff : ∀ path, path ∈ templates doc ↔ ∃ m ∈ activeMethods configs, path = "/" ++ m.method.path
  exists_of_verb : ∀ item ∈ items doc, ∀ verb ∈ verbs item.2,
    ∃ m ∈ activeMethods configs, item.1 = "/" ++ m.method.path ∧ verb = m.method.lowerHttpMethod

theorem hasPathsOf_document {a : ApiConfig}
    (h : (document fuel a configs).result s = (.ok doc, u)) : HasPathsOf doc configs := by
  obtain ⟨written, t, servers, components, hwritten, rfl⟩ := document_eq h
  obtain ⟨hmethods, -⟩ := ok_of_mapM hwritten
  obtain ⟨hseparate, hperm⟩ := entries_paths written
  refine ⟨hseparate.items, fun path => ?_, fun ⟨path, item⟩ hitem verb hverb => ?_⟩
  · have hpaths :
      path ∈ (written.foldl (fun paths e => addOperation paths e.1 e.2) []).map Prod.fst ↔
        ∃ e ∈ written, path = "/" ++ e.1.method.path := by
      rw [mem_paths_foldl, List.map_nil, or_iff_right List.not_mem_nil]
    rw [← hmethods]
    exact hpaths.trans (by simp only [List.mem_map, exists_exists_and_eq_and])
  · obtain ⟨⟨verb, operation⟩, hentry, rfl⟩ := List.mem_map.mp hverb
    obtain ⟨e, he, heq⟩ :=
      List.mem_map.mp (hperm.mem_iff.mp (mem_operations.mpr ⟨item, hitem, hentry⟩))
    obtain ⟨hpath, hverb⟩ := List.cons.inj (congrArg Prod.fst heq)
    exact ⟨e.1, hmethods ▸ List.mem_map_of_mem (mem_of_mem_lasting he), hpath.symm,
      (List.cons.inj hverb).1.symm⟩

namespace HasPathsOf

variable (h : HasPathsOf doc configs)

include h

theorem unambiguous_iff : Unambiguous doc ↔ ∀ m ∈ activeMethods configs,
    ∀ m' ∈ activeMethods configs,
    Path.blanked m.method.path = Path.blanked m'.method.path → m.method.path = m'.method.path := by
  rw [Unambiguous, List.nodup_map_iff_inj_on h.distinct]
  constructor
  · intro hinj m hm m' hm' hsame
    have heq := hinj _ ((h.mem_iff _).mpr ⟨m, hm, rfl⟩) _ ((h.mem_iff _).mpr ⟨m', hm', rfl⟩)
      (Path.blanked_slash_inj.mpr hsame)
    exact (String.append_right_inj "/").mp heq
  · intro hall path hpath path' hpath' hsame
    obtain ⟨m, hm, rfl⟩ := (h.mem_iff path).mp hpath
    obtain ⟨m', hm', rfl⟩ := (h.mem_iff path').mp hpath'
    rw [hall m hm m' hm' (Path.blanked_slash_inj.mp hsame)]

/-- Where one verb is under two paths of one template, two methods share a signature. -/
theorem verbs_disjoint (hvalid : Validated configs)
    (hverbs : ∀ m ∈ activeMethods configs, m.method.HasGivenVerb) :
    (items doc).Pairwise fun i i' => Path.blanked i.1 = Path.blanked i'.1 →
      (verbs i.2).Disjoint (verbs i'.2) := by
  refine (List.pairwise_map.mp h.distinct).imp_of_mem
    fun {i i'} hi hi' hne hsame verb hverb hverb' => hne ?_
  obtain ⟨m, hm, hpath, rfl⟩ := h.exists_of_verb i hi verb hverb
  obtain ⟨m', hm', hpath', hlower⟩ := h.exists_of_verb i' hi' _ hverb'
  rw [hpath, hpath', Path.blanked_slash_inj] at hsame
  have hsameVerb := MethodConfig.httpMethod_of_lower_eq (hverbs m hm) (hverbs m' hm') hlower
  rw [hpath, hpath', hvalid.eq_of_template hm hm' hsameVerb hsame]

theorem blanked_eq_iff_alike (hbalanced : ∀ m ∈ activeMethods configs,
    Path.isBalanced m.method.path = true) : ∀ path ∈ templates doc, ∀ path' ∈ templates doc,
      Path.blanked path = Path.blanked path' ↔ Path.Alike path.toList path'.toList := by
  intro path hpath path' hpath'
  obtain ⟨m, hm, rfl⟩ := (h.mem_iff path).mp hpath
  obtain ⟨m', hm', rfl⟩ := (h.mem_iff path').mp hpath'
  exact Path.blanked_eq_iff ((Path.isBalanced_slash _).trans (hbalanced m hm))
    ((Path.isBalanced_slash _).trans (hbalanced m' hm'))

end HasPathsOf

/-- A document of configurations that pass validation has every path once. It has no template twice
just if methods on one template call its placeholders alike, which only methods that answer to
different HTTP methods may fail to; so where a template stands twice, no verb is under both.
Templates are told by their blanked paths, which says as much as that they differ in the names of
placeholders alone, where braces close in turn. -/
theorem ambiguous_templates_differ_in_verbs (hvalid : Validate.configs fuel' configs = .ok ())
    (h : (DocumentFormat.openApi.render fuel configs).result s = (.ok text, u)) :
    ∃ a rest doc, configs = a :: rest ∧ text = doc.pretty ∧
      (document fuel a configs).result s = (.ok doc, u) ∧ (templates doc).Nodup ∧
      (∀ path, path ∈ templates doc ↔ ∃ m ∈ activeMethods configs, path = "/" ++ m.method.path) ∧
      (Unambiguous doc ↔ ∀ m ∈ activeMethods configs, ∀ m' ∈ activeMethods configs,
        Path.blanked m.method.path = Path.blanked m'.method.path → m.method.path = m'.method.path) ∧
      (∀ m ∈ activeMethods configs, ∀ m' ∈ activeMethods configs,
        Path.blanked m.method.path = Path.blanked m'.method.path → m.method.path ≠ m'.method.path →
          m.method.httpMethod ≠ m'.method.httpMethod) ∧
      ((∀ m ∈ activeMethods configs, m.method.HasGivenVerb) → (items doc).Pairwise fun i i' =>
        Path.blanked i.1 = Path.blanked i'.1 → (verbs i.2).Disjoint (verbs i'.2)) ∧
      ((∀ m ∈ activeMethods configs, Path.isBalanced m.method.path = true) →
        ∀ path ∈ templates doc, ∀ path' ∈ templates doc,
          Path.blanked path = Path.blanked path' ↔ Path.Alike path.toList path'.toList) := by
  cases configs with
  | nil => cases h
  | cons a rest =>
    obtain ⟨doc, t, hdoc, h⟩ := Compile.ok_of_bind h
    cases h
    have hvalidated := validated_of_ok hvalid
    have hpaths := hasPathsOf_document hdoc
    refine ⟨a, rest, doc, rfl, rfl, hdoc, hpaths.distinct, hpaths.mem_iff,
      hpaths.unambiguous_iff, ?_, hpaths.verbs_disjoint hvalidated, hpaths.blanked_eq_iff_alike⟩
    intro m hm m' hm' hsame hne hverb
    exact hne (hvalidated.eq_of_template hm hm' hverb hsame ▸ rfl)

end OpenApi

/-- A room is shown, and another put in its place under a placeholder of some name. -/
def roomConfig (name : String) : ApiConfig :=
  galleryConfig (exhibit "room" ("rooms" ++ "/" ++ Path.placeholder "room") ["room"])
    { exhibit "replace" ("rooms" ++ "/" ++ Path.placeholder name) [name] with httpMethod := "PUT" }

namespace OpenApi

theorem ambiguous_templates_differ_in_verbs_room :
    let config := roomConfig "room"
    Validate.configs 9 [config] = .ok () ∧ ∃ doc u,
      (document 9 config [config]).result {} = (.ok doc, u) ∧
      (DocumentFormat.openApi.render 9 [config]).result {} = (.ok doc.pretty, u) ∧
        Unambiguous doc := by
  intro config
  obtain ⟨⟨⟩, hvalid⟩ : ∃ r, Validate.configs 9 [config] = .ok r :=
    exists_of_isOk (by decide +kernel)
  obtain ⟨doc, u, hdoc, hrender⟩ : ∃ doc u,
      (DocumentFormat.openApi.document 9 config [config]).result {} = (.ok doc, u) ∧
      (DocumentFormat.openApi.render 9 [config]).result {} = (.ok doc.pretty, u) :=
    DocumentFormat.render_of_document (by decide +kernel)
  obtain ⟨a, rest, doc', hcons, -, hdoc', -, -, hunambiguous, -⟩ :=
    ambiguous_templates_differ_in_verbs hvalid hrender
  obtain ⟨rfl, rfl⟩ := List.cons.inj hcons
  cases hdoc.symm.trans hdoc'
  exact ⟨hvalid, doc, u, hdoc, hrender, hunambiguous.mpr (by decide +kernel)⟩

/-- Where the placeholder of the room to replace has another name, the rooms have two templates. -/
theorem rooms_have_two_templates :
    let config := roomConfig "number"
    Validate.configs 9 [config] = .ok () ∧ ∃ doc u,
      (document 9 config [config]).result {} = (.ok doc, u) ∧
      (DocumentFormat.openApi.render 9 [config]).result {} = (.ok doc.pretty, u) ∧
      templates doc = ["/rooms/" ++ Path.placeholder "room",
        "/rooms/" ++ Path.placeholder "number"] ∧
      ¬ Unambiguous doc := by
  intro config
  obtain ⟨⟨⟩, hvalid⟩ : ∃ r, Validate.configs 9 [config] = .ok r :=
    exists_of_isOk (by decide +kernel)
  obtain ⟨doc, u, hdoc, hrender⟩ : ∃ doc u,
      (DocumentFormat.openApi.document 9 config [config]).result {} = (.ok doc, u) ∧
      (DocumentFormat.openApi.render 9 [config]).result {} = (.ok doc.pretty, u) :=
    DocumentFormat.render_of_document (by decide +kernel)
  have htemplates : ((document 9 config [config]).result {}).1.toOption.map templates =
      some ["/rooms/" ++ Path.placeholder "room", "/rooms/" ++ Path.placeholder "number"] := by
        decide +kernel
  rw [show (document 9 config [config]).result {} = (.ok doc, u) from hdoc] at htemplates
  have htemplates := Option.some.inj htemplates
  refine ⟨hvalid, doc, u, hdoc, hrender, htemplates, ?_⟩
  rw [Unambiguous, htemplates]
  decide +kernel

end OpenApi

end ServiceApi
