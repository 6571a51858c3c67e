import ServiceApi.Proofs.Document.ParameterValues
import ServiceApi.Proofs.Load.DefaultPaths

/-! # Parameters that are refused

A parameter is refused for its type, or that of its items, whose transformer does not apply, or for
its default value. What is refused has changed no configuration: that of its method stands as it
did, or as it follows from the method alone where there was none, and the next parameter is added as
if nothing had been refused. -/

namespace ServiceApi

variable {p : ParameterConfig} {c : Catalog} {rules : SerializationRules}
  {m : MethodConfig} {e : ApiError} {location : String}

/-- Either the first of two steps fails, or the second one after it. -/
theorem bind_eq_error_iff {α β : Type} {x : Except ApiError α} {f : α → Except ApiError β} :
    x >>= f = .error e ↔ x = .error e ∨ ∃ a, x = .ok a ∧ f a = .error e := by
  cases x with
  | error e' =>
    have hfails : Except.error e' >>= f = .error e' := rfl
    rw [hfails, Except.error.injEq, Except.error.injEq]
    exact ⟨fun h => .inl h, fun h => h.resolve_right nofun⟩
  | ok a =>
    have hgoes : Except.ok a >>= f = f a := rfl
    rw [hgoes]
    refine ⟨fun h => .inr ⟨a, rfl, h⟩, fun h => ?_⟩
    obtain ⟨_, ⟨⟩, h⟩ := h.resolve_left nofun
    exact h

namespace ParameterConfig

/-! ## Why a parameter is refused -/

/-- The reasons to refuse a parameter of the method at `location`: it matters how it travels, and
this cannot be said; it has a default value, and its values have no type; or the default value is
not of that type. -/
inductive Refused (p : ParameterConfig) (c : Catalog) (rules : SerializationRules)
    (location : String) : ApiError → Prop
  | kind {e : ApiError} (hasked : p.defaultValue.isSome = true ∨ p.isRequired = true)
      (h : p.classification c rules = .error e) : Refused p c rules location e
  | values {e : ApiError} (hdefault : p.defaultValue.isSome = true)
      (hkind : p.classification c rules = .ok .apiParameter) (h : p.valueType c rules = .error e) :
      Refused p c rules location e
  | default {value : String} {type : TypeExpr} (hdefault : p.defaultValue = some value)
      (hkind : p.classification c rules = .ok .apiParameter)
      (htype : p.valueType c rules = .ok type) (hvalue : isValueOf c type value = false) :
      Refused p c rules location (.invalidDefault location p.displayName value type)

/-- How a parameter travels can be said unless a transformer does not apply, to its type or to its
items. -/
theorem classification_eq_error (h : p.classification c rules = .error e) :
    p.baseType c rules = .error e ∨ p.itemBaseType? c rules = .error e := by
  rw [classification] at h
  split at h
  · cases h
  · split at h
    · cases h
    · refine (bind_eq_error_iff.mp h).imp_right fun h => ?_
      obtain ⟨base, -, h⟩ := h
      split at h
      · cases h
      · split at h
        · cases h
        · obtain h | ⟨item?, _, h⟩ := bind_eq_error_iff.mp h
          · exact h
          · cases item? with
            | none => cases h
            | some item =>
              dsimp only at h
              split at h
              · cases h
              · split at h <;> cases h

theorem valueType_eq_error (h : p.valueType c rules = .error e) :
    p.baseType c rules = .error e ∨ p.itemBaseType? c rules = .error e := by
  rw [valueType] at h
  obtain h | ⟨item?, _, h⟩ := bind_eq_error_iff.mp h
  · exact .inr h
  · cases item? with
    | none => exact .inl h
    | some item => cases h

/-- It comes down to a bad default value, or to a transformer that does not apply. -/
theorem Refused.cause (h : p.Refused c rules location e) :
    (∃ value type, p.defaultValue = some value ∧ p.valueType c rules = .ok type ∧
      isValueOf c type value = false ∧ e = .invalidDefault location p.displayName value type) ∨
    p.baseType c rules = .error e ∨ p.itemBaseType? c rules = .error e := by
  cases h with
  | kind _ h => exact .inr (classification_eq_error h)
  | values _ _ h => exact .inr (valueType_eq_error h)
  | default hdefault _ htype hvalue => exact .inl ⟨_, _, hdefault, htype, hvalue, rfl⟩

theorem checkDefault_eq_error_iff : p.checkDefault c rules location = .error e ↔
    p.defaultValue.isSome = true ∧ p.Refused c rules location e := by
  rw [checkDefault]
  cases hdefault : p.defaultValue with
  | none => exact iff_of_false (fun h => by cases h) fun h => by cases h.1
  | some value =>
    have hsome : p.defaultValue.isSome = true := by rw [hdefault]; rfl
    refine bind_eq_error_iff.trans ⟨fun h => ⟨rfl, ?_⟩, fun h => ?_⟩
    · obtain h | ⟨kind, hkind, h⟩ := h
      · exact .kind (.inl hsome) h
      · by_cases hapi : kind = .apiParameter
        · subst hapi
          obtain h | ⟨type, htype, h⟩ := bind_eq_error_iff.mp h
          · exact .values hsome hkind h
          · cases hvalue : isValueOf c type value with
            | true => rw [hvalue] at h; cases h
            | false =>
              rw [hvalue] at h
              cases h
              exact .default hdefault hkind htype hvalue
        · rw [if_pos (by simpa using hapi)] at h
          cases h
    · cases h.2 with
      | kind _ h => exact .inl h
      | values _ hkind h => exact .inr ⟨_, hkind, bind_eq_error_iff.mpr (.inl h)⟩
      | @default value' type hdefault' hkind htype hvalue =>
        cases hdefault.symm.trans hdefault'
        refine .inr ⟨_, hkind, bind_eq_error_iff.mpr (.inr ⟨type, htype, ?_⟩)⟩
        rw [hvalue]
        rfl

end ParameterConfig

namespace MethodConfig

/-- The path is asked of a required parameter alone, and of that only how it travels. -/
theorem pathWith_eq_error_iff :
    m.pathWith p c rules = .error e ↔ p.isRequired = true ∧
      p.classification c rules = .error e := by
  rw [pathWith]
  cases hrequired : p.isRequired with
  | false => exact iff_of_false (fun h => by cases h) fun h => by cases h.1
  | true =>
    refine bind_eq_error_iff.trans ⟨fun h => ⟨rfl, h.resolve_right ?_⟩, fun h => .inl h.2⟩
    rintro ⟨kind, hkind, h⟩
    by_cases hapi : kind = .apiParameter
    · subst hapi
      obtain ⟨base, hbase, -⟩ := ParameterConfig.exists_of_apiParameter hkind
      rw [ParameterConfig.isRepeated, hbase] at h
      obtain h | ⟨isRepeated, _, h⟩ := bind_eq_error_iff.mp h
      · cases h
      · cases isRepeated with
        | true => cases h
        | false => cases hname : p.name <;> rw [hname] at h <;> cases h
    · rw [if_pos (by simpa using hapi)] at h
      cases h

theorem addParameter_eq_error_iff :
    m.addParameter p c rules = .error e ↔ p.Refused c rules m.endpoint.qualifiedName e := by
  rw [addParameter]
  refine bind_eq_error_iff.trans ⟨fun h => ?_, fun h => ?_⟩
  · obtain h | ⟨⟨⟩, -, h⟩ := h
    · exact (ParameterConfig.checkDefault_eq_error_iff.mp h).2
    · obtain h | ⟨path, -, h⟩ := bind_eq_error_iff.mp h
      · obtain ⟨hrequired, h⟩ := pathWith_eq_error_iff.mp h
        exact .kind (.inr hrequired) h
      · cases h
  · by_cases hdefault : p.defaultValue.isSome = true
    · exact .inl (ParameterConfig.checkDefault_eq_error_iff.mpr ⟨hdefault, h⟩)
    · have hnone : p.defaultValue = none := by simpa using hdefault
      have hchecked : p.checkDefault c rules m.endpoint.qualifiedName = .ok () := by
        rw [ParameterConfig.checkDefault, hnone]
      refine .inr ⟨(), hchecked, bind_eq_error_iff.mpr (.inl (pathWith_eq_error_iff.mpr ?_))⟩
      cases h with
      | kind hasked h => exact ⟨hasked.resolve_left hdefault, h⟩
      | values hdefault' => exact absurd hdefault' hdefault
      | default hdefault' => exact absurd (by rw [hdefault']; rfl) hdefault

end MethodConfig

namespace MethodConfigs

theorem ensure_ensure (ms : MethodConfigs) (m : EndpointMethod) :
    (ms.ensure m).ensure m = ms.ensure m := by
  have hcontains : (ms.ensure m).contains m.key = true := by
    rw [ensure, OrderedMap.contains_insertNew, decide_eq_true rfl, Bool.true_or]
  rw [ensure, OrderedMap.insertNew, if_pos hcontains]

theorem entries_ensure (ms : MethodConfigs) (m : EndpointMethod) : (ms.ensure m).entries =
    ms.entries ++ if ms.contains m.key then [] else [(m.key, .ofMethod m)] := by
  rw [ensure, OrderedMap.insertNew]
  cases h : ms.contains m.key with
  | true => exact (List.append_nil _).symm
  | false => exact OrderedMap.entries_insert_of_none (OrderedMap.contains_eq_false_iff.mp h)

theorem get?_ensure_self (ms : MethodConfigs) (m : EndpointMethod) :
    (ms.ensure m).get? m.key = some ((ms.get? m.key).getD (.ofMethod m)) := by
  rw [ensure, OrderedMap.get?_insertNew, if_pos rfl]
  cases ms.get? m.key <;> rfl

/-- The configuration that a parameter of `m` is added to. -/
def start (ms : MethodConfigs) (m : EndpointMethod) : MethodConfig :=
  (ms.get? m.key).getD (.ofMethod m)

theorem start_ensure (ms : MethodConfigs) (m : EndpointMethod) :
    (ms.ensure m).start m = ms.start m := by
  rw [start, get?_ensure_self]
  rfl

theorem get?_ensure_of_some {ms : MethodConfigs} {m : EndpointMethod} {k : MethodKey}
    {config : MethodConfig} (h : ms.get? k = some config) : (ms.ensure m).get? k = some config := by
  rw [ensure, OrderedMap.get?_insertNew, h, Option.some_or]

theorem addParameter_eq (ms : MethodConfigs) (m : EndpointMethod)
    (p : ParameterConfig) (c : Catalog) (rules : SerializationRules) : ms.addParameter m p c rules =
      match (ms.start m).addParameter p c rules with
      | .ok config => ((ms.ensure m).insert m.key config, .ok ())
      | .error e => (ms.ensure m, .error e) := by
  rw [addParameter, get?_ensure_self]
  rfl

theorem addParameter_ensure (ms : MethodConfigs) (m : EndpointMethod)
    (p : ParameterConfig) (c : Catalog) (rules : SerializationRules) :
    (ms.ensure m).addParameter m p c rules = ms.addParameter m p c rules := by
  rw [addParameter_eq, addParameter_eq, start_ensure, ensure_ensure]

/-- A parameter is added as a whole or not at all. One that is refused, for its default value or for
a transformer that does not apply, leaves every configuration as it was; only that its method is
configured from then on, as it follows from the method alone, and whatever is added to it next is
added as if nothing had been refused. One that is not refused is the last parameter of its method,
the path of which is what it was with the parameter in it, and changes nothing else. -/
theorem parameters_are_added_as_a_whole (ms : MethodConfigs) (m : EndpointMethod)
    (p : ParameterConfig) (c : Catalog) (rules : SerializationRules) :
    let after := (ms.addParameter m p c rules).1
    let result := (ms.addParameter m p c rules).2
    (∀ e, result = .error e ↔ p.Refused c rules (ms.start m).endpoint.qualifiedName e) ∧
      (∀ e, result = .error e →
        ((∃ value type, p.defaultValue = some value ∧ p.valueType c rules = .ok type ∧
            ParameterConfig.isValueOf c type value = false ∧
            e = .invalidDefault (ms.start m).endpoint.qualifiedName p.displayName value type) ∨
          p.baseType c rules = .error e ∨ p.itemBaseType? c rules = .error e) ∧
        after.entries = ms.entries ++ (if ms.contains m.key then [] else [(m.key, .ofMethod m)]) ∧
        (∀ k config, ms.get? k = some config → after.get? k = some config) ∧
        ∀ p', after.addParameter m p' c rules = ms.addParameter m p' c rules) ∧
      (result = .ok () → ∃ path, (ms.start m).pathWith p c rules = .ok path ∧
        ∀ k, after.get? k = if k = m.key then
          some { ms.start m with path, parameters := (ms.start m).parameters ++ [p] }
            else ms.get? k) := by
  intro after result
  cases hadd : (ms.start m).addParameter p c rules with
  | error e =>
    have hall : ms.addParameter m p c rules = (ms.ensure m, .error e) := by
      rw [addParameter_eq, hadd]
    have hafter : after = ms.ensure m := congrArg Prod.fst hall
    have hresult : result = .error e := congrArg Prod.snd hall
    have hrefused : p.Refused c rules (ms.start m).endpoint.qualifiedName e :=
      MethodConfig.addParameter_eq_error_iff.mp hadd
    refine ⟨fun e' => ?_, fun e' he' => ⟨?_, ?_, fun k config h => ?_, fun p' => ?_⟩, fun h => ?_⟩
    · rw [← MethodConfig.addParameter_eq_error_iff, hadd, hresult, Except.error.injEq,
        Except.error.injEq]
    · cases hresult.symm.trans he'
      exact hrefused.cause
    · rw [hafter, entries_ensure]
    · rw [hafter, get?_ensure_of_some h]
    · rw [hafter, addParameter_ensure]
    · rw [hresult] at h
      cases h
  | ok config =>
    have hall : ms.addParameter m p c rules = ((ms.ensure m).insert m.key config, .ok ()) := by
      rw [addParameter_eq, hadd]
    have hafter : after = (ms.ensure m).insert m.key config := congrArg Prod.fst hall
    have hresult : result = .ok () := congrArg Prod.snd hall
    refine ⟨fun e' => ?_, fun e' h => ?_, fun _ => ?_⟩
    · rw [← MethodConfig.addParameter_eq_error_iff, hadd, hresult]
      exact ⟨nofun, nofun⟩
    · rw [hresult] at h
      cases h
    · obtain ⟨⟨⟩, -, h⟩ := ok_of_bind hadd
      obtain ⟨path, hpath, h⟩ := ok_of_bind h
      cases h
      refine ⟨path, hpath, fun k => ?_⟩
      rw [hafter, OrderedMap.get?_insert]
      split
      · rfl
      · rename_i hk
        rw [ensure, OrderedMap.get?_insertNew, if_neg hk, Option.or_none]

/-- Counts something, up to a limit. -/
def counting : EndpointMethod :=
  { serviceClass := "Shelf", declaringClass := "Shelf", name := "count",
    parameterTypes := [.primitive .int] }

def limitOf (default : String) : ParameterConfig :=
  { name := some "limit", type := .primitive .int, defaultValue := some default }

/-- A limit that is no number is refused, and then a better one is taken. -/
theorem parameters_are_added_as_a_whole_limit :
    let configured := MethodConfigs.ensure .empty counting
    let after := (configured.addParameter counting (limitOf "many") .builtin {}).1
    let result := (configured.addParameter counting (limitOf "many") .builtin {}).2
    let limit : TypeExpr := .primitive .int
    result = .error (.invalidDefault "Shelf.count" "limit" "many" limit) ∧
      after.entries = configured.entries ∧
      ∃ path, ((after.addParameter counting (limitOf "12") .builtin {}).1.get? counting.key) =
        some { MethodConfig.ofMethod counting with path, parameters := [limitOf "12"] } := by
  intro configured after result limit
  obtain ⟨hrefused, hleft, -⟩ :=
    parameters_are_added_as_a_whole configured counting (limitOf "many") .builtin {}
  have hresult : result = .error (.invalidDefault "Shelf.count" "limit" "many" limit) :=
    (hrefused _).mpr (.default rfl rfl rfl (by decide +kernel))
  obtain ⟨-, hentries, -, hnext⟩ := hleft _ hresult
  obtain ⟨-, -, hadded⟩ :=
    parameters_are_added_as_a_whole configured counting (limitOf "12") .builtin {}
  obtain ⟨path, -, hget⟩ := hadded rfl
  refine ⟨hresult, hentries, path, ?_⟩
  rw [hnext, hget]
  rfl

/-- Refused as it is, the limit leaves a configuration behind where there was none. -/
theorem a_refused_parameter_configures_its_method :
    let before : MethodConfigs := .empty
    let after := (before.addParameter counting (limitOf "many") .builtin {}).1
    (before.addParameter counting (limitOf "many") .builtin {}).2 =
        .error (.invalidDefault "Shelf.count" "limit" "many" (.primitive .int)) ∧
      before.get? counting.key = none ∧ after.get? counting.key = some (.ofMethod counting) ∧
        after ≠ before := by
  intro before after
  have hconfigured : after.get? counting.key = some (.ofMethod counting) := by rfl
  refine ⟨by rfl, rfl, hconfigured, fun hsame => ?_⟩
  rw [hsame] at hconfigured
  cases hconfigured

end MethodConfigs

end ServiceApi
