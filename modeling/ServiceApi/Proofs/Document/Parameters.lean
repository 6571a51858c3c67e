import Mathlib.Data.List.ReduceOption
import ServiceApi.Document.Parameter
import ServiceApi.Proofs.Config.Path
import ServiceApi.Proofs.Validated.Method

/-! # Which parameters are sent, and where

The API parameters of a method are sent under their names. Those that the path has a placeholder for
come first, in the order of the placeholders, and the rest is sent in the query. -/

namespace ServiceApi

variable {fuel : Nat} {configs : List ApiConfig} {m : MethodScope} {p : ParameterConfig}
  {c : Catalog} {rules : SerializationRules} {value : TypeExpr} {sent? : Option SentParameter}
  {kept ps : List SentParameter}

/-- The values of a parameter are its items, or else what it is serialized as. -/
theorem ParameterConfig.valueType_eq_ok_iff : p.valueType c rules = .ok value ↔
    p.itemBaseType? c rules = .ok (some value) ∨
      p.itemBaseType? c rules = .ok none ∧ p.baseType c rules = .ok value := by
  rw [valueType]
  rcases p.itemBaseType? c rules with e | _ | item
  · refine iff_of_false nofun ?_
    rintro (h | ⟨h, -⟩) <;> cases h
  · change p.baseType c rules = .ok value ↔ _
    simp
  · change Except.ok item = .ok value ↔ _
    simp

namespace MethodScope

/-- A parameter is sent where its name says, and one in the path is required. -/
structure Places (m : MethodScope) (q : SentParameter) : Prop where
  located : q.location = m.locate q.name
  required : q.location = .path → q.required = true

theorem locate_eq_path {name : String} :
    m.locate name = .path ↔ name ∈ m.method.pathParameters := by
  rw [locate, ← List.contains_iff_mem]
  split <;> simp_all

theorem Places.path_iff {q : SentParameter} (h : m.Places q) :
    q.location = .path ↔ q.name ∈ m.method.pathParameters := by
  rw [h.located, locate_eq_path]

/-- A parameter is not sent, or it has a name, and what is sent of it is of the type of its
values. -/
theorem sentParameter?_cases (h : m.sentParameter? p = .ok sent?) :
    (∃ kind, p.classification m.api.catalog m.api.rules = .ok kind ∧
      kind ≠ .apiParameter ∧ sent? = none) ∨
    p.classification m.api.catalog m.api.rules = .ok .apiParameter ∧ (p.name = none ∧ sent? = none ∨
      ∃ q value, p.name = some q.name ∧ p.valueType m.api.catalog m.api.rules = .ok value ∧
        m.api.catalog.fieldType? value = some q.fieldType ∧ m.Places q ∧ sent? = some q) := by
  obtain ⟨kind, hkind, h⟩ := ok_of_bind h
  split at h
  · rename_i hother
    cases h
    exact .inl ⟨kind, hkind, by simpa using hother, rfl⟩
  · rename_i hapi
    have hapi : kind = .apiParameter := by simpa using hapi
    subst hapi
    refine .inr ⟨hkind, ?_⟩
    cases hname : p.name with
    | none =>
      rw [hname] at h
      cases h
      exact .inl ⟨rfl, rfl⟩
    | some name =>
      rw [hname] at h
      obtain ⟨item, hitem, h⟩ := ok_of_bind h
      cases item
      all_goals
        obtain ⟨value, hvalue, h⟩ := ok_of_bind h
        dsimp only at h
        split at h
        · cases h
        rename_i hft
        cases h
        refine .inr ⟨_, value, rfl, ParameterConfig.valueType_eq_ok_iff.mpr ?_, hft,
          ⟨rfl, fun hpath => Bool.or_eq_true_iff.mpr (.inl (decide_eq_true hpath))⟩, rfl⟩
      · exact .inr ⟨hitem, hvalue⟩
      · cases hvalue
        exact .inl hitem

theorem sentParameter?_ok (h : m.sentParameter? p = .ok sent?) :
    sent?.map (·.name) = (if p.isApiParameter m.api.catalog m.api.rules then p.name else none) ∧
      ∀ q ∈ sent?, m.Places q := by
  obtain ⟨kind, hkind, hother, rfl⟩ | ⟨hkind, ⟨hname, rfl⟩ | ⟨q, -, hname, -, -, hplaces, rfl⟩⟩ :=
    sentParameter?_cases h
  · rw [p.isApiParameter_eq hkind, if_neg (by simpa using hother)]
    exact ⟨rfl, nofun⟩
  · rw [hname, ite_self]
    exact ⟨rfl, nofun⟩
  · rw [p.isApiParameter_eq hkind, if_pos (by decide), hname]
    refine ⟨rfl, fun q' hq => ?_⟩
    cases hq
    exact hplaces

/-- The parameters that are sent are the API parameters that have names. -/
theorem sentParameters?_ok : ∀ {qs : List ParameterConfig} {sent : List (Option SentParameter)},
    qs.mapM m.sentParameter? = .ok sent →
      sent.reduceOption.map (·.name) =
        (qs.filter (·.isApiParameter m.api.catalog m.api.rules)).filterMap (·.name) ∧
      ∀ q ∈ sent.reduceOption, m.Places q
  | [], _, h => by
    cases h
    exact ⟨rfl, fun _ hq => by cases hq⟩
  | p :: qs, _, h => by
    rw [List.mapM_cons] at h
    obtain ⟨sent?, hp, h⟩ := ok_of_bind h
    obtain ⟨sent, hqs, h⟩ := ok_of_bind h
    cases h
    obtain ⟨hname, hplace⟩ := sentParameter?_ok hp
    obtain ⟨hnames, hplaces⟩ := sentParameters?_ok hqs
    have hcons :
      ((p :: qs).filter (·.isApiParameter m.api.catalog m.api.rules)).filterMap (·.name) =
        (sent?.map (·.name)).toList ++
          (qs.filter (·.isApiParameter m.api.catalog m.api.rules)).filterMap (·.name) := by
      rw [hname, List.filter_cons]
      split
      · rw [List.filterMap_cons]
        cases p.name <;> rfl
      · rfl
    rw [hcons]
    cases sent? with
    | none =>
      rw [List.reduceOption_cons_of_none]
      exact ⟨hnames, hplaces⟩
    | some q =>
      rw [List.reduceOption_cons_of_some, List.map_cons, hnames]
      exact ⟨rfl, List.forall_mem_cons.mpr ⟨hplace q rfl, hplaces⟩⟩

/-- What is sent, before it is arranged. -/
theorem sentParameters_ok (h : m.sentParameters = .ok ps) :
    ∃ kept, ps = m.arrange kept ∧ kept.map (·.name) = m.apiNames ∧ ∀ q ∈ kept, m.Places q := by
  rw [sentParameters] at h
  cases hsent : m.method.parameters.mapM m.sentParameter? with
  | error e => rw [hsent] at h; cases h
  | ok sent =>
    rw [hsent] at h
    cases h
    obtain ⟨hnames, hplaces⟩ := sentParameters?_ok hsent
    exact ⟨_, rfl, hnames, hplaces⟩

/-- Arranging loses nothing. -/
theorem arrange_perm (kept : List SentParameter) : (m.arrange kept).Perm kept := by
  have hquery :
      (fun q : SentParameter => q.location == .query) = fun q => !(q.location == .path) := by
    funext q
    cases q.location <;> rfl
  rw [arrange, hquery]
  exact ((List.mergeSort_perm _ _).append_right _).trans (List.filter_append_perm _ _)

/-- What is sent goes by the names of the API parameters. -/
theorem sentParameters_perm (h : m.sentParameters = .ok ps) :
    (ps.map (·.name)).Perm m.apiNames ∧ ∀ q ∈ ps, m.Places q := by
  obtain ⟨kept, rfl, hnames, hplaces⟩ := sentParameters_ok h
  have hperm := m.arrange_perm kept
  exact ⟨hnames ▸ hperm.map _, fun q hq => hplaces q (hperm.mem_iff.mp hq)⟩

/-- The number of the first placeholder called like the parameter. -/
def place (m : MethodScope) (q : SentParameter) : Nat := m.method.pathParameters.idxOf q.name

/-- The path comes before the query, and follows the order of the placeholders. -/
theorem arrange_eq (kept : List SentParameter) : ∃ inPath inQuery, m.arrange kept =
    inPath ++ inQuery ∧ (∀ q, q ∈ inPath ↔ q ∈ kept ∧ q.location = .path) ∧
    (∀ q, q ∈ inQuery ↔ q ∈ kept ∧ q.location = .query) ∧
    inPath.Pairwise fun q q' => m.place q ≤ m.place q' := by
  refine ⟨_, _, rfl, fun q => ?_, fun q => ?_, ?_⟩
  · rw [List.mem_mergeSort, List.mem_filter, beq_iff_eq]
  · rw [List.mem_filter, beq_iff_eq]
  · have htrans (a b c : SentParameter) (hab : decide (m.place a ≤ m.place b) = true)
        (hbc : decide (m.place b ≤ m.place c) = true) : decide (m.place a ≤ m.place c) = true :=
      decide_eq_true (Nat.le_trans (of_decide_eq_true hab) (of_decide_eq_true hbc))
    have htotal (a b : SentParameter) :
        (decide (m.place a ≤ m.place b) || decide (m.place b ≤ m.place a)) = true := by
      simpa using Nat.le_total (m.place a) (m.place b)
    exact (List.pairwise_mergeSort htrans htotal _).imp of_decide_eq_true

/-- The path of a method is filled by the parameters that are sent in it: these are required, go by
the names of its placeholders and by no others, and come first, in the order in which the
placeholders begin. -/
theorem path_parameters_fill_the_path (hvalid : Validate.configs fuel configs = .ok ())
    (hm : m ∈ activeMethods configs) (h : m.sentParameters = .ok ps) :
    Path.Template m.method.path.toList (m.method.pathParameters.map String.toList) ∧
      ∃ inPath inQuery, ps = inPath ++ inQuery ∧
        (∀ q ∈ inPath, q.location = .path ∧ q.required = true) ∧
        (∀ q ∈ inQuery, q.location = .query) ∧
        (∀ name, name ∈ inPath.map (·.name) ↔ name ∈ m.method.pathParameters) ∧
        inPath.Pairwise fun q q' => m.place q ≤ m.place q' := by
  have hchecked := checked_of_ok (Validate.method_of_ok hvalid hm)
  obtain ⟨kept, rfl, hnames, hplaces⟩ := sentParameters_ok h
  obtain ⟨inPath, inQuery, harrange, hpath, hquery, hsorted⟩ := m.arrange_eq kept
  refine ⟨Path.template_placeholders _, inPath, inQuery, harrange, fun q hq => ?_,
    fun q hq => ((hquery q).mp hq).2, fun name => ?_, hsorted⟩
  · obtain ⟨hkept, hlocation⟩ := (hpath q).mp hq
    exact ⟨hlocation, (hplaces q hkept).required hlocation⟩
  · constructor
    · intro hname
      obtain ⟨q, hq, rfl⟩ := List.mem_map.mp hname
      obtain ⟨hkept, hlocation⟩ := (hpath q).mp hq
      exact (hplaces q hkept).path_iff.mp hlocation
    · intro hname
      have hapi := hchecked.placed name hname
      rw [← hnames] at hapi
      obtain ⟨q, hkept, rfl⟩ := List.mem_map.mp hapi
      exact List.mem_map_of_mem ((hpath q).mpr ⟨hkept, (hplaces q hkept).path_iff.mpr hname⟩)

end MethodScope

/-- Finds the books at a place in rows of a shelf; the path mentions the shelf twice, and whatever
the place is called. -/
def lookUp (place : String) : MethodConfig :=
  { endpoint := { serviceClass := "Library", declaringClass := "Library", name := "lookUp",
                  parameterTypes :=
                    [.raw "Integer", .named "List" [.raw "Integer"], .raw "String"] }
    name := "library.lookUp", httpMethod := "GET", impliedResource := none
    path := "shelves" ++ "/" ++ Path.placeholder "shelf" ++ "/" ++ Path.placeholder "row" ++ "/" ++
      Path.placeholder "shelf"
    parameters := [
      { name := some place, type := .raw "Integer", nullable := true },
      { name := some "row", type := .named "List" [.raw "Integer"], nullable := true },
      { name := some "shelf", type := .raw "String" }] }

def libraryConfig (place : String) : ApiConfig :=
  (ApiConfig.default ⟨"library", .builtin⟩ {} "Library").setMethods <|
    OrderedMap.empty.insert (lookUp place).endpoint.key (lookUp place)

theorem MethodScope.path_parameters_fill_the_path_lookUp :
    let m : MethodScope := ⟨libraryConfig "place", lookUp "place"⟩
    Validate.configs 9 [m.api] = .ok () ∧ m ∈ activeMethods [m.api] ∧
      m.method.pathParameters = ["shelf", "row", "shelf"] ∧
      ∃ ps inPath inQuery, m.sentParameters = .ok ps ∧ ps = inPath ++ inQuery ∧
        (∀ q ∈ inPath, q.location = .path ∧ q.required = true) ∧
        ∀ name, name ∈ inPath.map (·.name) ↔ name = "shelf" ∨ name = "row" := by
  intro m
  have hm : m ∈ activeMethods [m.api] := List.mem_singleton_self m
  have hpath : m.method.pathParameters = ["shelf", "row", "shelf"] := by decide +kernel
  obtain ⟨⟨⟩, hvalid⟩ : ∃ r, Validate.configs 9 [m.api] = .ok r :=
    exists_of_isOk (by decide +kernel)
  obtain ⟨ps, hps⟩ : ∃ ps, m.sentParameters = .ok ps := exists_of_isOk (by decide +kernel)
  obtain ⟨-, inPath, inQuery, hsplit, hrequired, -, hfilled, -⟩ :=
    path_parameters_fill_the_path hvalid hm hps
  refine ⟨hvalid, hm, hpath, ps, inPath, inQuery, hps, hsplit, hrequired, fun name => ?_⟩
  rw [hfilled, hpath]
  grind

end ServiceApi
