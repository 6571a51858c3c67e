import ServiceApi.Proofs.Validated

/-! # What validation ensures of a method

Its API parameters have names, among them all that its path has placeholders for, and its return
type can be sent. Nothing is said about two parameters of one name. -/

namespace ServiceApi

variable {fuel : Nat} {m : MethodScope} {p : ParameterConfig} {c : Catalog}
  {rules : SerializationRules}

/-- The parameter is sent in the path or the query. -/
def ParameterConfig.isApiParameter (p : ParameterConfig) (c : Catalog)
    (rules : SerializationRules) : Bool :=
  (p.classification c rules).toOption == some .apiParameter

theorem ParameterConfig.isApiParameter_eq {kind : Classification}
    (h : p.classification c rules = .ok kind) :
    p.isApiParameter c rules = (kind == .apiParameter) := by
  rw [isApiParameter, h]
  rfl

namespace MethodScope

def apiParameters (m : MethodScope) : List ParameterConfig :=
  m.method.parameters.filter (·.isApiParameter m.api.catalog m.api.rules)

/-- What the API parameters of a method are called, in the order of declaration. -/
def apiNames (m : MethodScope) : List String := m.apiParameters.filterMap (·.name)

end MethodScope

namespace Validate

variable {sorted sorted' : Sorted}

/-- The ways in which a parameter passes. -/
theorem sortParameter_ok {index : Nat} (h : sortParameter m sorted (p, index) = .ok sorted') :
    (p.classification m.api.catalog m.api.rules = .ok .injected ∧ sorted' = sorted) ∨
    (∃ name, p.classification m.api.catalog m.api.rules = .ok .apiParameter ∧ p.name = some name ∧
      sorted' = { sorted with apiNames := sorted.apiNames ++ [name] }) ∨
    (p.classification m.api.catalog m.api.rules = .ok .resource ∧
      (∀ item, p.itemBaseType? m.api.catalog m.api.rules = .ok (some item) →
        m.api.catalog.isArray item = false) ∧
      sorted' = { sorted with resources := sorted.resources ++ [p] }) := by
  obtain ⟨kind, hkind, h⟩ := ok_of_bind h
  cases kind with
  | injected => cases h; exact Or.inl ⟨hkind, rfl⟩
  | unknown => cases h
  | apiParameter =>
    cases hname : p.name with
    | none => rw [hname] at h; cases h
    | some name =>
      rw [hname] at h
      cases h
      exact Or.inr (Or.inl ⟨name, hkind, rfl, rfl⟩)
  | resource =>
    obtain ⟨item?, hitem, h⟩ := ok_of_bind h
    refine Or.inr (Or.inr ⟨hkind, fun item heq => ?_, ?_⟩)
    · cases hitem.symm.trans heq
      dsimp only at h
      split at h
      · cases h
      · rename_i hflat
        simpa using hflat
    · cases item? with
      | none => cases h; rfl
      | some item =>
        dsimp only at h
        split at h
        · cases h
        · cases h; rfl

/-- All API parameters have names, and these are noted one after the other. -/
theorem sortParameters_ok : ∀ {ps : List (ParameterConfig × Nat)} {sorted sorted' : Sorted},
    ps.foldlM (sortParameter m) sorted = .ok sorted' →
      ∃ names,
        ((ps.map Prod.fst).filter (·.isApiParameter m.api.catalog m.api.rules)).map (·.name) =
        names.map some ∧ sorted'.apiNames = sorted.apiNames ++ names
  | [], sorted, _, h => by
    cases h
    exact ⟨[], rfl, (List.append_nil _).symm⟩
  | (p, index) :: ps, sorted, sorted', h => by
    rw [List.foldlM_cons] at h
    obtain ⟨next, hp, h⟩ := ok_of_bind h
    obtain ⟨names, hnamed, hnames⟩ := sortParameters_ok h
    rw [List.map_cons]
    rcases sortParameter_ok hp with ⟨hkind, rfl⟩ | ⟨name, hkind, hname, rfl⟩ | ⟨hkind, -, rfl⟩
    · rw [List.filter_cons_of_neg (by rw [p.isApiParameter_eq hkind]; decide)]
      exact ⟨names, hnamed, hnames⟩
    · rw [List.filter_cons_of_pos (by rw [p.isApiParameter_eq hkind]; decide),
        List.map_cons, hname, hnamed]
      exact ⟨name :: names, rfl, hnames.trans (List.append_assoc _ _ _)⟩
    · rw [List.filter_cons_of_neg (by rw [p.isApiParameter_eq hkind]; decide)]
      exact ⟨names, hnamed, hnames⟩

/-- What is noted is what the API parameters of the method are called. -/
theorem apiNames_eq (h : m.method.parameters.zipIdx.foldlM (sortParameter m) {} = .ok sorted) :
    m.apiParameters.map (·.name) = m.apiNames.map some ∧ sorted.apiNames = m.apiNames := by
  obtain ⟨names, hnamed, hnames⟩ := sortParameters_ok h
  rw [List.zipIdx_map_fst] at hnamed
  have hapi : m.apiNames = names := by
    have hkept := congrArg (List.filterMap id) hnamed
    rwa [List.filterMap_map, List.filterMap_map, Function.id_comp, Function.id_comp,
      List.filterMap_some] at hkept
  exact ⟨hapi ▸ hnamed, hapi ▸ hnames⟩

/-- The return type of a method that passes has passed, and so has the first parameter that is sent
as its body; its parameters have names for all placeholders. -/
theorem method_ok (h : method fuel m = .ok ()) :
    (∀ t, m.method.returnType? = some t → returnType m t = .ok ()) ∧
      ∃ sorted, m.method.parameters.zipIdx.foldlM (sortParameter m) {} = .ok sorted ∧
        (∀ name ∈ m.method.pathParameters, name ∈ sorted.apiNames) ∧
        ∀ p, sorted.resources.head? = some p → resource fuel m sorted.apiNames p = .ok () := by
  have hplaced {names : List String}
      (hnone : m.method.pathParameters.find? (!names.contains ·) = none) :
      ∀ name ∈ m.method.pathParameters, name ∈ names := by
    simpa using hnone
  unfold method at h
  dsimp only at h
  cases hreturn : m.method.returnType?
  all_goals rw [hreturn] at h
  case' some t => obtain ⟨⟨⟩, ht, h⟩ := ok_of_bind h
  all_goals
    obtain ⟨sorted, hsorted, h⟩ := ok_of_bind h
    refine ⟨?_, sorted, hsorted, ?_⟩
  case none.refine_1 => exact fun _ h => by cases h
  case some.refine_1 =>
    intro t' h'
    cases h'
    exact ht
  all_goals
    split at h
    · cases h
    · split at h
      · rename_i hfirst
        obtain ⟨⟨⟩, hpassed, h⟩ := ok_of_bind h
        split at h
        · cases h
        · refine ⟨hplaced ‹_›, fun p hp => ?_⟩
          rw [hfirst] at hp
          cases hp
          exact hpassed
      · rename_i hnone
        split at h
        · cases h
        · exact ⟨hplaced ‹_›, fun p hp => by rw [hnone] at hp; cases hp⟩

end Validate

namespace MethodScope

/-- A method that passed validation. -/
structure Checked (m : MethodScope) : Prop where
  returns : ∀ t, m.method.returnType? = some t → Validate.returnType m t = .ok ()
  /-- Every API parameter has a name. -/
  named : m.apiParameters.map (·.name) = m.apiNames.map some
  /-- Every placeholder of the path has an API parameter. -/
  placed : ∀ name ∈ m.method.pathParameters, name ∈ m.apiNames

theorem checked_of_ok (h : Validate.method fuel m = .ok ()) : m.Checked := by
  obtain ⟨hreturn, sorted, hsorted, hplaced, -⟩ := Validate.method_ok h
  obtain ⟨hnamed, hnames⟩ := Validate.apiNames_eq hsorted
  exact ⟨hreturn, hnamed, hnames ▸ hplaced⟩

end MethodScope

end ServiceApi
