import Mathlib.Data.List.Basic
import ServiceApi.Config.Override
import ServiceApi.Proofs.OrderedMap

/-! # Overrides, field by field

An override that gives a fixed value to a field leaves every other field alone. So of several
overrides in a row each field has the value that the last one gives it, and doing some of them once
more changes nothing just if these end with the values that are there. -/

namespace ServiceApi

/-! ## States made of fields -/

section ConfigFields

variable {σ ω : Type} {act : σ → ω → σ}

/-- A part of a state, and the value that an action gives it if it gives one. -/
structure ConfigField (act : σ → ω → σ) where
  {Value : Type}
  read : σ → Value
  given : ω → Option Value
  read_act (s : σ) (o : ω) : read (act s o) = (given o).getD (read s) := by
    intro s o
    cases o <;> first | rfl | (rename_i o; cases o <;> rfl)

/-- The value that a field has in the end if any is given. -/
def ConfigField.last? (f : ConfigField act) (os : List ω) : Option f.Value :=
  os.reverse.findSome? f.given

theorem ConfigField.last?_append (f : ConfigField act) (os ds : List ω) :
    f.last? (os ++ ds) = (f.last? ds).or (f.last? os) := by
  rw [last?, List.reverse_append, List.findSome?_append]
  rfl

theorem ConfigField.read_foldl (f : ConfigField act) : ∀ (os : List ω) (s : σ),
    f.read (os.foldl act s) = (f.last? os).getD (f.read s)
  | [], _ => rfl
  | o :: os, s => by
    have hfirst : f.last? [o] = f.given o := List.findSome?_singleton
    rw [List.foldl_cons, f.read_foldl os, f.read_act, ← List.singleton_append,
      f.last?_append, hfirst]
    cases f.last? os <;> rfl

theorem ConfigField.exists_last? {f : ConfigField act} {os ds : List ω}
    (hds : ∀ o ∈ ds, o ∈ os) {v : f.Value}
    (h : f.last? ds = some v) : ∃ w, f.last? os = some w := by
  obtain ⟨o, ho, hv⟩ := List.exists_of_findSome?_eq_some h
  rw [← Option.isSome_iff_exists, last?, List.findSome?_isSome_iff]
  exact ⟨o, List.mem_reverse.mpr (hds o (List.mem_reverse.mp ho)), by rw [hv]; rfl⟩

/-- A state is its fields, and what no action changes. -/
structure ConfigFields (act : σ → ω → σ) where
  all : List (ConfigField act)
  {Rest : Type}
  rest : σ → Rest
  rest_act (s : σ) (o : ω) : rest (act s o) = rest s
  ext {s t : σ} (hfields : ∀ f ∈ all, f.read s = f.read t) (hrest : rest s = rest t) : s = t

namespace ConfigFields

variable {fs : ConfigFields act} {ds os : List ω} {s : σ}

/-- What `ds` give each field in the end, `os` give it too. -/
def Steady (fs : ConfigFields act) (ds os : List ω) : Prop :=
  ∀ f ∈ fs.all, ∀ v, f.last? ds = some v → f.last? os = some v

theorem steady_append (fs : ConfigFields act) (os ds : List ω) : fs.Steady ds (os ++ ds) := by
  intro f _ v hv
  rw [f.last?_append, hv, Option.some_or]

theorem rest_foldl (fs : ConfigFields act) :
    ∀ (os : List ω) (s : σ), fs.rest (os.foldl act s) = fs.rest s
  | [], _ => rfl
  | o :: os, s => (fs.rest_foldl os (act s o)).trans (fs.rest_act s o)

/-- Some of the actions once more change nothing just if they end with the same values. -/
theorem foldl_foldl_eq_iff (hds : ∀ o ∈ ds, o ∈ os) :
    ds.foldl act (os.foldl act s) = os.foldl act s ↔ fs.Steady ds os := by
  constructor
  · intro h f hf v hv
    obtain ⟨w, hw⟩ := ConfigField.exists_last? hds hv
    have hread := f.read_foldl ds (os.foldl act s)
    rw [h, f.read_foldl, hv, hw] at hread
    exact hw.trans (congrArg some hread)
  · intro h
    refine fs.ext (fun f hf => ?_) (fs.rest_foldl ds _)
    rw [f.read_foldl ds, f.read_foldl os]
    cases hv : f.last? ds with
    | none => rfl
    | some v => rw [h f hf v hv]; rfl

end ConfigFields

end ConfigFields

/-! ## The fields of an API and its class -/

/-- It gives a value to a field, whatever was there. -/
def TopOverride.isFixed : TopOverride → Bool
  | .api (.addTransformer _) => false
  | _ => true

/-- The override where it gives a value to a field. -/
def TopOverride.set (a : ApiConfig) : TopOverride → ApiConfig
  | .api (.addTransformer _) => a
  | .api o => (o.apply a).toOption.getD a
  | .ofClass o => { a with classConfig := o.apply a.classConfig }

theorem TopOverride.apply_eq_set {o : TopOverride} (h : o.isFixed = true) (a : ApiConfig) :
    o.apply a = .ok (o.set a) := by
  cases o with
  | api o =>
    cases o with
    | addTransformer => cases h
    | _ => rfl
  | ofClass => rfl

theorem TopOverride.set_setMethods (a : ApiConfig) (methods : MethodConfigs) (o : TopOverride) :
    o.set (a.setMethods methods) = (o.set a).setMethods methods := by
  cases o with
  | api o => cases o <;> rfl
  | ofClass o => cases o <;> rfl

def TopOverride.fieldList : List (ConfigField TopOverride.set) := [
  { read := (·.root), given := fun | .api (.root v) => some v | _ => none },
  { read := (·.name), given := fun | .api (.name v) => some v | _ => none },
  { read := (·.canonicalName), given := fun | .api (.canonicalName v) => some v | _ => none },
  { read := (·.version), given := fun | .api (.version v) => some v | _ => none },
  { read := (·.title), given := fun | .api (.title v) => some v | _ => none },
  { read := (·.description), given := fun | .api (.description v) => some v | _ => none },
  { read := (·.documentationLink),
    given := fun | .api (.documentationLink v) => some v | _ => none },
  { read := (·.backendRoot), given := fun | .api (.backendRoot v) => some v | _ => none },
  { read := (·.isAbstract), given := fun | .api (.isAbstract v) => some v | _ => none },
  { read := (·.isDefaultVersion), given := fun | .api (.isDefaultVersion v) => some v | _ => none },
  { read := (·.discoverable), given := fun | .api (.discoverable v) => some v | _ => none },
  { read := (·.useDatastore), given := fun | .api (.useDatastore v) => some v | _ => none },
  { read := (·.resource), given := fun | .api (.resource v) => some v | _ => none },
  { read := (·.authLevel), given := fun | .api (.authLevel v) => some v | _ => none },
  { read := (·.scopes), given := fun | .api (.scopes v) => some (.ofScopes v) | _ => none },
  { read := (·.audiences), given := fun | .api (.audiences v) => some v | _ => none },
  { read := (·.issuers), given := fun | .api (.issuers v) => some (.ofList v) | _ => none },
  { read := (·.issuerAudiences),
    given := fun | .api (.issuerAudiences v) => some (.ofList v) | _ => none },
  { read := (·.clientIds), given := fun | .api (.clientIds v) => some v | _ => none },
  { read := (·.authenticators), given := fun | .api (.authenticators v) => some v | _ => none },
  { read := (·.peerAuthenticators),
    given := fun | .api (.peerAuthenticators v) => some v | _ => none },
  { read := (·.apiKeyRequired), given := fun | .api (.apiKeyRequired v) => some v | _ => none },
  { read := (·.cookieAuth), given := fun | .api (.cookieAuth v) => some v | _ => none },
  { read := (·.cacheControl), given := fun | .api (.cacheControl v) => some v | _ => none },
  { read := (·.frontendLimits), given := fun | .api (.frontendLimits v) => some v | _ => none },
  { read := (·.packageNaming), given := fun | .api (.packageNaming v) => some v | _ => none },
  { read := (·.rules), given := fun | .api (.rules v) => some v | _ => none },
  { read := (·.limitMetrics), given := fun | .api (.limitMetrics v) => some v | _ => none },
  { read := (·.classConfig.resource), given := fun | .ofClass (.resource v) => some v | _ => none },
  { read := (·.classConfig.authLevel),
    given := fun | .ofClass (.authLevel v) => some v | _ => none },
  { read := (·.classConfig.scopes),
    given := fun | .ofClass (.scopes v) => some (v.map .ofScopes) | _ => none },
  { read := (·.classConfig.audiences),
    given := fun | .ofClass (.audiences v) => some v | _ => none },
  { read := (·.classConfig.issuerAudiences)
    given := fun | .ofClass (.issuerAudiences v) => some (v.map .ofList) | _ => none },
  { read := (·.classConfig.clientIds),
    given := fun | .ofClass (.clientIds v) => some v | _ => none },
  { read := (·.classConfig.authenticators),
    given := fun | .ofClass (.authenticators v) => some v | _ => none },
  { read := (·.classConfig.peerAuthenticators)
    given := fun | .ofClass (.peerAuthenticators v) => some v | _ => none },
  { read := (·.classConfig.useDatastore),
    given := fun | .ofClass (.useDatastore v) => some v | _ => none },
  { read := (·.classConfig.apiKeyRequired)
    given := fun | .ofClass (.apiKeyRequired v) => some v | _ => none }]

theorem TopOverride.eq_of_fields {a b : ApiConfig} (hfields : ∀ f ∈ fieldList, f.read a = f.read b)
    (hshared : a.shared = b.shared)
    (hname : a.classConfig.serviceClass = b.classConfig.serviceClass)
    (hmethods : a.classConfig.methods = b.classConfig.methods) : a = b := by
  simp only [fieldList, List.forall_mem_cons, List.not_mem_nil, false_implies, implies_true,
    and_true] at hfields
  have hclass : a.classConfig = b.classConfig := by
    cases ha : a.classConfig with | mk =>
    cases hb : b.classConfig with | mk =>
    simp only [ha, hb, ClassConfig.mk.injEq] at hfields hname hmethods ⊢
    tauto
  cases a with | mk =>
  cases b with | mk =>
  simp only [ApiConfig.mk.injEq] at hfields hshared hclass ⊢
  tauto

def TopOverride.fields : ConfigFields TopOverride.set where
  all := fieldList
  rest a := (a.shared, a.classConfig.serviceClass, a.methods)
  rest_act a o := by
    cases o with
    | api o => cases o <;> rfl
    | ofClass o => cases o <;> rfl
  ext hfields hrest := by
    simp only [Prod.mk.injEq] at hrest
    exact eq_of_fields hfields hrest.1 hrest.2.1 hrest.2.2

/-! ## The fields of a method -/

namespace MethodOverride

/-- The return type that a text spells. -/
def returnType? : Option String → Option (Option TypeExpr)
  | none => some none
  | some s => (TypeExpr.parse s).toOption.map some

/-- It gives a value to a field, whatever was there. -/
def isFixed : MethodOverride → Bool
  | .httpMethod v => (HttpMethod.parse? v).isSome
  | .returnType v => (returnType? v).isSome
  | _ => true

/-- The override where it gives a value to a field. -/
def set (m : MethodConfig) : MethodOverride → MethodConfig
  | .httpMethod v => { m with httpMethod := (HttpMethod.parse? v).getD m.httpMethod }
  | .returnType v =>
    { m with
      endpoint := { m.endpoint with returnType := (returnType? v).getD m.endpoint.returnType } }
  | o => (o.apply m).toOption.getD m

theorem apply_eq_set {o : MethodOverride} (h : o.isFixed = true) (m : MethodConfig) :
    o.apply m = .ok (o.set m) := by
  cases o with
  | httpMethod v =>
    rw [isFixed, Option.isSome_iff_exists] at h
    obtain ⟨method, hv⟩ := h
    simp only [apply, MethodConfig.setHttpMethod, set, hv, Option.getD_some]
  | returnType v =>
    rw [isFixed, Option.isSome_iff_exists] at h
    obtain ⟨t, hv⟩ := h
    rw [set, hv]
    cases v with
    | none => cases hv; rfl
    | some s =>
      obtain ⟨u, hu, rfl⟩ := Option.map_eq_some_iff.mp hv
      cases hparse : TypeExpr.parse s with
      | error e => rw [hparse] at hu; cases hu
      | ok u' =>
        rw [hparse] at hu
        cases hu
        show m.setReturnType (some s) = _
        simp [MethodConfig.setReturnType, hparse, Except.mapError]
  | _ => rfl

@[simp] theorem key_set (m : MethodConfig) (o : MethodOverride) :
    (o.set m).endpoint.key = m.endpoint.key := by
  cases o <;> dsimp only [set] <;> rfl

/-- A field of a method. What an override sets is written out first: a text need not be read for
it. -/
def field {α : Type} (read : MethodConfig → α) (given : MethodOverride → Option α)
    (read_act : ∀ m o, read (set m o) = (given o).getD (read m) := by
      intro m o
      cases o <;> dsimp only [set] <;> rfl) : ConfigField set :=
  { read, given, read_act }

def fieldList : List (ConfigField set) := [
  field (·.name) (fun | .name v => some v | _ => none),
  field (·.description) (fun | .description v => some v | _ => none),
  field (·.path) (fun | .path v => some v | _ => none),
  field (·.httpMethod) (fun | .httpMethod v => HttpMethod.parse? v | _ => none),
  field (·.impliedResource) (fun | .impliedResource v => some v | _ => none),
  field (·.authLevel) (fun | .authLevel v => some v | _ => none),
  field (·.scopes) (fun | .scopes v => some (v.map .ofScopes) | _ => none),
  field (·.audiences) (fun | .audiences v => some v | _ => none),
  field (·.issuerAudiences) (fun | .issuerAudiences v => some (v.map .ofList) | _ => none),
  field (·.clientIds) (fun | .clientIds v => some v | _ => none),
  field (·.authenticators) (fun | .authenticators v => some v | _ => none),
  field (·.peerAuthenticators) (fun | .peerAuthenticators v => some v | _ => none),
  field (·.apiKeyRequired) (fun | .apiKeyRequired v => some v | _ => none),
  field (·.ignored) (fun | .ignored v => some v | _ => none),
  field (·.metricCosts) (fun | .metricCosts v => some v | _ => none),
  field (·.parameters) (fun | .parameters v => some v | _ => none),
  field (·.endpoint.returnType) (fun | .returnType v => returnType? v | _ => none)]

def fields : ConfigFields set where
  all := fieldList
  Rest := EndpointMethod
  rest m := { m.endpoint with returnType := none }
  rest_act m o := by cases o <;> dsimp only [set] <;> rfl
  ext {m m'} hfields hrest := by
    simp only [fieldList, field, List.forall_mem_cons, List.not_mem_nil,
      false_implies, implies_true, and_true] at hfields
    have hendpoint : m.endpoint = m'.endpoint := by
      cases hm : m.endpoint with | mk =>
      cases hm' : m'.endpoint with | mk =>
      simp only [hm, hm', EndpointMethod.mk.injEq] at hfields hrest ⊢
      tauto
    cases m with | mk =>
    cases m' with | mk =>
    simp only [MethodConfig.mk.injEq] at hfields hendpoint ⊢
    tauto

end MethodOverride

/-! ## The methods of a class -/

theorem MethodSelector.selects_congr (selector : MethodSelector) {m m' : MethodConfig}
    (h : m.endpoint.key = m'.endpoint.key) : selector.selects m = selector.selects m' := by
  cases selector with
  | all => rfl
  | named name =>
    have hname : m.endpoint.name = m'.endpoint.name := congrArg MethodKey.name h
    rw [selects, selects, hname]
  | exactly key => rw [selects, selects, h]

namespace SelectedOverride

variable {m m' : MethodConfig}

/-- The override, if it is for the method. -/
def overrideFor? (m : MethodConfig) (o : SelectedOverride) : Option MethodOverride :=
  if o.selector.selects m then some o.override else none

/-- The overrides that are for a method. -/
def overridesFor (m : MethodConfig) (os : List SelectedOverride) : List MethodOverride :=
  os.filterMap (overrideFor? m)

theorem overridesFor_append (m : MethodConfig) (os os' : List SelectedOverride) :
    overridesFor m (os ++ os') = overridesFor m os ++ overridesFor m os' := List.filterMap_append

def set (m : MethodConfig) (o : SelectedOverride) : MethodConfig :=
  ((overrideFor? m o).map (·.set m)).getD m

theorem overridesFor_congr (os : List SelectedOverride) (h : m.endpoint.key = m'.endpoint.key) :
    overridesFor m os = overridesFor m' os :=
  congrArg (os.filterMap ·) (funext fun o => by
    rw [overrideFor?, overrideFor?, o.selector.selects_congr h])

theorem foldl_set : ∀ (os : List SelectedOverride) (m : MethodConfig),
    os.foldl set m = (overridesFor m os).foldl MethodOverride.set m
  | [], _ => rfl
  | o :: os, m => by
    rw [List.foldl_cons, foldl_set os]
    cases ho : overrideFor? m o with
    | none =>
      have hset : set m o = m := by rw [set, ho]; rfl
      have hrest : overridesFor m (o :: os) = overridesFor m os := List.filterMap_cons_none ho
      rw [hset, hrest]
    | some override =>
      have hset : set m o = override.set m := by rw [set, ho]; rfl
      have hrest : overridesFor m (o :: os) = override :: overridesFor m os :=
        List.filterMap_cons_some ho
      rw [hset, hrest, overridesFor_congr os (override.key_set m), List.foldl_cons]

theorem key_foldl : ∀ (os : List MethodOverride) (m : MethodConfig),
    (os.foldl MethodOverride.set m).endpoint.key = m.endpoint.key
  | [], _ => rfl
  | o :: os, m => (key_foldl os _).trans (o.key_set m)

end SelectedOverride

namespace MethodConfigs

/-- Every method after the overrides that are for it. -/
def overridden (ms : MethodConfigs) (os : List SelectedOverride) : MethodConfigs :=
  ms.mapValues fun _ m => os.foldl SelectedOverride.set m

theorem overridden_append (ms : MethodConfigs) (os os' : List SelectedOverride) :
    ms.overridden (os ++ os') = (ms.overridden os).overridden os' := by
  rw [overridden, overridden, overridden, OrderedMap.mapValues_mapValues]
  simp only [List.foldl_append]

/-- The overrides once more change nothing of methods that had them among others just if, for each
method, they end with the same values. -/
theorem overridden_overridden_eq_iff {ms : MethodConfigs} {os ds : List SelectedOverride}
    (hds : ∀ o ∈ ds, o ∈ os) : (ms.overridden os).overridden ds = ms.overridden os ↔
      ∀ m ∈ (ms.overridden os).values, MethodOverride.fields.Steady
        (SelectedOverride.overridesFor m ds) (SelectedOverride.overridesFor m os) := by
  have hvalues :
      (ms.overridden os).values = ms.values.map fun m => os.foldl SelectedOverride.set m :=
    OrderedMap.values_mapValues ..
  refine OrderedMap.mapValues_eq_iff.trans ?_
  rw [hvalues, List.forall_mem_map, List.forall_mem_map]
  refine forall₂_congr fun m _ => ?_
  -- What is for the method now was for it before: its key is the same.
  have hkey : (os.foldl SelectedOverride.set m).endpoint.key = m.endpoint.key := by
    rw [SelectedOverride.foldl_set, SelectedOverride.key_foldl]
  rw [SelectedOverride.foldl_set ds, SelectedOverride.overridesFor_congr ds hkey,
    SelectedOverride.overridesFor_congr os hkey, SelectedOverride.foldl_set os]
  refine MethodOverride.fields.foldl_foldl_eq_iff fun o ho => ?_
  obtain ⟨selected, hmem, hfor⟩ := List.mem_filterMap.mp ho
  exact List.mem_filterMap.mpr ⟨selected, hds selected hmem, hfor⟩

/-- The walk over the methods that are left, after those of `before`. -/
theorem override_go {o : SelectedOverride} (h : o.override.isFixed = true) :
    ∀ (rest before : List (MethodKey × MethodConfig)) (ms : MethodConfigs) (count : Nat),
      ms.entries = before ++ rest → ∃ ms' n, override.go o ms count rest = (ms', .ok n) ∧
        ms'.entries = before ++ rest.map fun e => (e.1, o.set e.2)
  | [], before, ms, count, hms => ⟨ms, count, rfl, hms⟩
  | (key, m) :: rest, before, ms, count, hms => by
    rw [override.go]
    by_cases hselects : o.selector.selects m = true
    · have hset : o.set m = o.override.set m := by
        rw [SelectedOverride.set, SelectedOverride.overrideFor?, if_pos hselects]
        rfl
      have hkey : key ∉ before.map Prod.fst := by
        have hnodup := ms.nodup
        rw [hms, List.map_append, List.nodup_append] at hnodup
        exact fun hmem => hnodup.2.2 key hmem key List.mem_cons_self rfl
      have hinsert : (ms.insert key (o.set m)).entries = (before ++ [(key, o.set m)]) ++ rest := by
        rw [OrderedMap.entries_insert, hms, Entries.put_append hkey, Entries.put, if_pos rfl]
        simp
      rw [if_pos hselects, MethodOverride.apply_eq_set h, ← hset]
      obtain ⟨ms', n, hgo, hentries⟩ := override_go h rest _ _ (count + 1) hinsert
      exact ⟨ms', n, hgo, by rw [hentries, List.append_assoc]; rfl⟩
    · have hset : o.set m = m := by
        rw [SelectedOverride.set, SelectedOverride.overrideFor?, if_neg hselects]
        rfl
      rw [if_neg hselects]
      obtain ⟨ms', n, hgo, hentries⟩ :=
        override_go h rest (before ++ [(key, m)]) ms count (by simp [hms])
      exact ⟨ms', n, hgo, by rw [hentries, List.append_assoc, List.map_cons, hset]; rfl⟩

end MethodConfigs

theorem SelectedOverride.apply_eq_overridden {o : SelectedOverride} (h : o.override.isFixed = true)
    (ms : MethodConfigs) : apply ms o = .ok (ms.overridden [o]) := by
  obtain ⟨ms', n, hgo, hentries⟩ := MethodConfigs.override_go h ms.entries [] ms 0 rfl
  have heq : ms' = ms.overridden [o] := OrderedMap.ext hentries
  have hoverride : ms.override o = (ms', .ok n) := hgo
  rw [apply, hoverride, heq]

theorem SelectedOverride.foldlM_apply : ∀ {os : List SelectedOverride},
    (∀ o ∈ os, o.override.isFixed = true) → ∀ ms : MethodConfigs,
      os.foldlM apply ms = .ok (ms.overridden os)
  | [], _, ms => congrArg Except.ok ms.mapValues_id.symm
  | o :: os, h, ms => by
    obtain ⟨ho, hos⟩ := List.forall_mem_cons.mp h
    rw [List.foldlM_cons, apply_eq_overridden ho]
    exact (foldlM_apply hos _).trans (congrArg Except.ok (ms.overridden_append [o] os).symm)

end ServiceApi
