import ServiceApi.Proofs.Validated.Method

/-! # What a method is refused for on its own

For its types and parameters, or for placeholders of its path that no API parameter is called. What
lies between two methods is another error. -/

namespace ServiceApi

open FailsBy

variable {m : MethodScope}

namespace ParameterConfig

variable (p : ParameterConfig) (c : Catalog) (rules : SerializationRules)

theorem applyFirst_failsBy (t : TypeExpr) (transformers : List String) :
    FailsBy ApiError.isOfTypes (applyFirst c t transformers) := by
  unfold applyFirst
  split
  · exact ok _
  · exact (c.instantiate_failsBy _ t).ofTypes.bind fun _ => ok _

theorem baseType_failsBy : FailsBy ApiError.isOfTypes (p.baseType c rules) :=
  applyFirst_failsBy c _ _

theorem itemBaseType?_failsBy : FailsBy ApiError.isOfTypes (p.itemBaseType? c rules) := by
  refine ((p.baseType_failsBy c rules).map _).bind fun item => ?_
  split
  · exact ok _
  · have htransformers : FailsBy ApiError.isOfTypes (p.effectiveItemTransformers c rules) := by
      unfold effectiveItemTransformers
      split
      · exact ok _
      · exact (p.baseType_failsBy c rules).map _
    exact htransformers.bind fun _ => (applyFirst_failsBy c _ _).bind fun _ => ok _

theorem classification_failsBy : FailsBy ApiError.isOfTypes (p.classification c rules) := by
  unfold classification
  split
  · exact ok _
  · split
    · exact ok _
    · refine (p.baseType_failsBy c rules).bind fun base => ?_
      split
      · exact ok _
      · split
        · exact ok _
        · refine (p.itemBaseType?_failsBy c rules).bind fun item => ?_
          split
          · exact ok _
          · split
            · exact ok _
            · split <;> exact ok _

end ParameterConfig

/-- The error is not about a placeholder without a parameter. -/
def ApiError.isOffPath : ApiError → Bool
  | pathParameterNotFound .. => false
  | _ => true

/-- The error is about what one method takes and returns. -/
def ApiError.isOfMethod : ApiError → Bool
  | invalidReturnType .. | unresolvedParameterType .. | missingParameterName .. |
    nestedCollection .. | invalidParameterType .. | propertyParameterConflict .. |
    multipleResources .. => true
  | e => e.isOfTypes

theorem FailsBy.ofMethod {α : Type} {x : Except ApiError α} (h : FailsBy ApiError.isOfTypes x) :
    FailsBy ApiError.isOfMethod x :=
  h.mono fun e he => by cases e <;> first | rfl | cases he

namespace Validate

theorem returnType_failsBy (m : MethodScope) (t : TypeExpr) :
    FailsBy ApiError.isOfMethod (returnType m t) := by
  refine (m.api.catalog.schemaType_failsBy m.api.rules t).ofTypes.ofMethod.bind fun resolved => ?_
  split
  · exact error rfl
  · split
    · exact error rfl
    · split
      · exact error rfl
      · split
        · exact error rfl
        · exact ok _
  · exact ok _
  · exact error rfl

theorem sortParameter_failsBy (m : MethodScope) (sorted : Sorted)
    (indexed : ParameterConfig × Nat) :
    FailsBy ApiError.isOfMethod (sortParameter m sorted indexed) := by
  obtain ⟨p, index⟩ := indexed
  refine (p.classification_failsBy m.api.catalog m.api.rules).ofMethod.bind fun kind => ?_
  cases kind with
  | injected => exact ok _
  | unknown => exact error rfl
  | apiParameter =>
    dsimp only
    split
    · exact error rfl
    · exact ok _
  | resource =>
    refine (p.itemBaseType?_failsBy m.api.catalog m.api.rules).ofMethod.bind fun item => ?_
    split
    · split
      · exact error rfl
      · exact ok _
    · exact ok _

theorem propertyNames_failsBy (fuel : Nat) (m : MethodScope) (t : TypeExpr) :
    FailsBy ApiError.isOfTypes (propertyNames fuel m t) := by
  unfold propertyNames
  dsimp only
  split
  · exact ok _
  · refine (m.api.catalog.resourceSchema_failsBy m.api.rules t).ofTypes.bind fun resource => ?_
    split
    · exact ok _
    · exact (m.api.catalog.properties_failsBy fuel t).bind fun _ => ok _

theorem resource_failsBy (fuel : Nat) (m : MethodScope) (apiNames : List String)
    (p : ParameterConfig) : FailsBy ApiError.isOfMethod (resource fuel m apiNames p) := by
  refine (p.baseType_failsBy m.api.catalog m.api.rules).ofMethod.bind fun base => ?_
  dsimp only
  split
  · exact error rfl
  · split
    · exact error rfl
    · refine (propertyNames_failsBy fuel m base).ofMethod.bind fun names => ?_
      split
      · exact error rfl
      · exact ok _

/-- What a method is refused for, if not for a placeholder without a parameter. -/
theorem method_failsBy_of {P : ApiError → Bool} (fuel : Nat)
    (hmethod : ∀ e, e.isOfMethod = true → P e = true)
    (hpath : ∀ name ∈ m.method.pathParameters, name ∉ m.apiNames →
      P (.pathParameterNotFound m.method.endpoint.qualifiedName m.method.path name) = true) :
    FailsBy P (method fuel m) := by
  unfold method
  dsimp only
  cases m.method.returnType?
  case' some t => refine ((returnType_failsBy m t).mono hmethod).bind fun _ => ?_
  all_goals
    refine ((FailsBy.foldlM (sortParameter_failsBy m) _ {}).mono hmethod).bind_of_ok
      fun sorted hsorted => ?_
    have hmissing {name : String}
        (hname : m.method.pathParameters.find? (!sorted.apiNames.contains ·) = some name) :
        P (.pathParameterNotFound m.method.endpoint.qualifiedName m.method.path name) = true := by
      refine hpath name (List.mem_of_find?_eq_some hname) ?_
      rw [← (apiNames_eq hsorted).2]
      simpa using List.find?_some hname
    split
    · exact error (hmethod _ rfl)
    · split
      · refine ((resource_failsBy fuel m sorted.apiNames _).mono hmethod).bind fun _ => ?_
        split
        · exact error (hmissing ‹_›)
        · exact ok _
      · split
        · exact error (hmissing ‹_›)
        · exact ok _

/-- A method whose path has placeholders for its API parameters alone is not refused for one of
them. -/
theorem method_failsBy (fuel : Nat) (h : ∀ name ∈ m.method.pathParameters, name ∈ m.apiNames) :
    FailsBy ApiError.isOffPath (method fuel m) :=
  method_failsBy_of fuel (fun e he => by cases e <;> first | rfl | cases he)
    fun name hname hnot => absurd (h name hname) hnot

end Validate

end ServiceApi
