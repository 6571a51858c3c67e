import ServiceApi.Proofs.Load.Methods
import ServiceApi.Proofs.Load.Passes
import ServiceApi.Proofs.OrderedMap
import ServiceApi.Proofs.Validated

/-! # Where the settings of a method come from

The annotations of a method, of its service class and of the API each may give a setting. What is
read of a loaded method is what the nearest of them gives, and of the annotations of the API the
last one that gives anything. A setting knows where each tier has it and what one annotation does to
it; that a whole load hands it down follows for all settings at once. -/

namespace ServiceApi

variable {m m' : MethodConfig} {x y : ApiConfig} {c : Catalog} {rules : SerializationRules}
  {e : EndpointMethod × MethodDecl} {α : Type}

/-! ## What one annotation does -/

theorem MethodConfig.addParameter_ok {p : ParameterConfig} (h : m.addParameter p c rules = .ok m') :
    ∃ path parameters, m' = { m with path, parameters } := by
  obtain ⟨⟨⟩, -, h⟩ := ok_of_bind h
  obtain ⟨path, -, h⟩ := ok_of_bind h
  cases h
  exact ⟨path, _, rfl⟩

theorem MethodConfig.foldlM_addParameter_ok :
    ∀ {ps : List (ParameterDecl × TypeExpr)} {m m' : MethodConfig},
    ps.foldlM (fun m (p, type) => m.addParameter (.ofDecl p type) c rules) m = .ok m' →
      ∃ path parameters, m' = { m with path, parameters }
  | [], m, _, h => by
    cases h
    exact ⟨m.path, m.parameters, rfl⟩
  | _ :: ps, _, _, h => by
    rw [List.foldlM_cons] at h
    obtain ⟨m₁, hfirst, h⟩ := ok_of_bind h
    obtain ⟨_, _, rfl⟩ := addParameter_ok hfirst
    obtain ⟨path, parameters, rfl⟩ := foldlM_addParameter_ok h
    exact ⟨path, parameters, rfl⟩

/-- What an annotation says about the HTTP method, which may be refused, changes that alone. -/
theorem MethodConfig.annotate_ok {a : MethodAnnotation} (h : m.annotate a = .ok m') :
    ∃ rest httpMethod, m.annotate { a with httpMethod := none } = .ok rest ∧
      m' = { rest with httpMethod } := by
  rw [annotate] at h
  cases ha : a.httpMethod with
  | none =>
    rw [ha] at h
    cases h
    exact ⟨_, m.httpMethod, rfl, rfl⟩
  | some value =>
    rw [ha] at h
    dsimp only at h
    rw [setHttpMethod] at h
    split at h
    · cases h
      exact ⟨_, _, rfl, rfl⟩
    · cases h

/-- What an annotation says about transformers, which may be refused, changes those alone. -/
theorem ApiConfig.annotate_ok {a : ApiAnnotation} (h : x.annotate a = .ok y) :
    ∃ rest rules, x.annotate { a with transformers := none } = .ok rest ∧
      y = { rest with rules } := by
  obtain ⟨rules, -, h⟩ := ok_of_bind h
  cases h
  exact ⟨_, rules, rfl, rfl⟩

theorem ApiConfig.foldlM_annotate_ok : ∀ {chain : List ApiAnnotation} {x y : ApiConfig},
    chain.foldlM annotate x = .ok y → y.shared = x.shared ∧ y.classConfig = x.classConfig
  | [], _, _, h => by
    cases h
    exact ⟨rfl, rfl⟩
  | a :: chain, x, y, h => by
    rw [List.foldlM_cons] at h
    obtain ⟨x₁, hfirst, h⟩ := ok_of_bind h
    obtain ⟨hshared, hclass⟩ := foldlM_annotate_ok h
    obtain ⟨_, _, ⟨⟩, rfl⟩ := annotate_ok hfirst
    exact ⟨hshared, hclass⟩

/-! ## Settings -/

/-- One thing that is set for methods: what an annotation of each tier gives, what the configuration
of each tier holds, and how the former becomes the latter. -/
structure Setting (α : Type) where
  ofMethod : MethodAnnotation → Option α
  ofClass : ClassAnnotation → Option α
  ofApi : ApiAnnotation → Option α
  method : MethodConfig → Option α
  serviceClass : ClassConfig → Option α
  api : ApiConfig → Option α
  /-- What holds without any annotation. -/
  default : Option α
  method_ofMethod (m : EndpointMethod) : method (.ofMethod m) = none := by intros; rfl
  method_parameters (m : MethodConfig) (path : String) (parameters : List ParameterConfig) :
    method { m with path, parameters } = method m := by intros; rfl
  method_annotate {m m' : MethodConfig} {a : MethodAnnotation} (h : m.annotate a = .ok m') :
    method m' = (ofMethod a).or (method m) := by
      intro _ _ _ h
      obtain ⟨_, _, ⟨⟩, rfl⟩ := MethodConfig.annotate_ok h
      rfl
  class_default (name : String) : serviceClass { serviceClass := name } = none := by intros; rfl
  class_annotate (x : ClassConfig) (a : ClassAnnotation) :
    serviceClass (x.annotate a) = (ofClass a).or (serviceClass x) := by intros; rfl
  class_methods (x : ClassConfig) (methods : MethodConfigs) :
    serviceClass { x with methods } = serviceClass x := by intros; rfl
  api_default (shared : SharedCatalog) (context : ServiceContext) (name : String) :
    api (.default shared context name) = default := by intros; rfl
  api_annotate {x y : ApiConfig} {a : ApiAnnotation} (h : x.annotate a = .ok y) :
    api y = (ofApi a).or (api x) := by
      intro _ _ _ h
      obtain ⟨_, _, ⟨⟩, rfl⟩ := ApiConfig.annotate_ok h
      simp
  api_classConfig (x : ApiConfig) (classConfig : ClassConfig) :
    api { x with classConfig } = api x := by intros; rfl

theorem AuthLevel.specified?_or (a b : Option AuthLevel) :
    specified? ((specified? a).or b) = (specified? a).or (specified? b) := by
  rcases a with _ | a
  · rfl
  · cases a <;> rfl

namespace Setting

def authLevel : Setting AuthLevel where
  ofMethod a := AuthLevel.specified? a.authLevel
  ofClass a := AuthLevel.specified? a.authLevel
  ofApi a := AuthLevel.specified? a.authLevel
  method m := AuthLevel.specified? m.authLevel
  serviceClass x := AuthLevel.specified? x.authLevel
  api x := some x.authLevel
  default := some .none
  method_annotate h := by
    obtain ⟨_, _, ⟨⟩, rfl⟩ := MethodConfig.annotate_ok h
    exact AuthLevel.specified?_or _ _
  class_annotate _ _ := AuthLevel.specified?_or _ _
  api_annotate h := by
    obtain ⟨_, _, ⟨⟩, rfl⟩ := ApiConfig.annotate_ok h
    simp [AuthLevel.orElse]

def scopes : Setting ScopeExpression where
  ofMethod a := a.scopes.map .ofScopes
  ofClass a := a.scopes.map .ofScopes
  ofApi a := a.scopes.map .ofScopes
  method m := m.scopes
  serviceClass x := x.scopes
  api x := some x.scopes
  default := some (.ofScopes [defaultScope])

def audiences : Setting (List String) where
  ofMethod a := a.audiences
  ofClass a := a.audiences
  ofApi a := a.audiences
  method m := m.audiences
  serviceClass x := x.audiences
  api x := some x.audiences
  default := some []

def issuerAudiences : Setting IssuerAudiences where
  ofMethod a := a.issuerAudiences.map .ofList
  ofClass a := a.issuerAudiences.map .ofList
  ofApi a := a.issuerAudiences.map .ofList
  method m := m.issuerAudiences
  serviceClass x := x.issuerAudiences
  api x := some x.issuerAudiences
  default := some .empty

def clientIds : Setting (List String) where
  ofMethod a := a.clientIds
  ofClass a := a.clientIds
  ofApi a := a.clientIds
  method m := m.clientIds
  serviceClass x := x.clientIds
  api x := some x.clientIds
  default := some [defaultClientId]

def authenticators : Setting (List String) where
  ofMethod a := a.authenticators
  ofClass a := a.authenticators
  ofApi a := a.authenticators
  method m := m.authenticators
  serviceClass x := x.authenticators
  api x := x.authenticators
  default := none

def peerAuthenticators : Setting (List String) where
  ofMethod a := a.peerAuthenticators
  ofClass a := a.peerAuthenticators
  ofApi a := a.peerAuthenticators
  method m := m.peerAuthenticators
  serviceClass x := x.peerAuthenticators
  api x := x.peerAuthenticators
  default := none

def apiKeyRequired : Setting Bool where
  ofMethod a := a.apiKeyRequired
  ofClass a := a.apiKeyRequired
  ofApi a := a.apiKeyRequired
  method m := m.apiKeyRequired
  serviceClass x := x.apiKeyRequired
  api x := some x.apiKeyRequired
  default := some false

/-- What is read of a method: what it leaves open the class says, then the API. -/
def effective (s : Setting α) (m : MethodScope) : Option α :=
  (s.method m.method).or ((s.serviceClass m.api.classConfig).or (s.api m.api))

/-- Of the annotations of an API the last one that gives anything counts. -/
theorem api_foldlM (s : Setting α) : ∀ {chain : List ApiAnnotation} {x y : ApiConfig},
    chain.foldlM ApiConfig.annotate x = .ok y →
      s.api y = (chain.reverse.findSome? s.ofApi).or (s.api x)
  | [], _, _, h => by
    cases h
    rfl
  | a :: chain, x, y, h => by
    rw [List.foldlM_cons] at h
    obtain ⟨x₁, hfirst, h⟩ := ok_of_bind h
    rw [api_foldlM s h, s.api_annotate hfirst, List.reverse_cons, List.findSome?_append,
      List.findSome?_singleton, Option.or_assoc]

end Setting

/-! ## A whole load -/

/-- The configuration of a method has all settings from one declaration. -/
structure MethodConfig.IsDeclaredBy (m : MethodConfig)
    (e : EndpointMethod × MethodDecl) : Prop where
  endpoint : m.endpoint = e.1
  method {α : Type} (s : Setting α) : s.method m = e.2.api.bind s.ofMethod

namespace MethodConfigs

variable {ms ms' : MethodConfigs}

theorem load_ok (hnew : ms.get? e.1.key = none) (h : load c rules ms e = .ok ms') :
    ∃ m : MethodConfig, m.IsDeclaredBy e ∧ ms' = ms.insert e.1.key m := by
  rw [load, hnew] at h
  obtain ⟨start, hstart, h⟩ := ok_of_bind h
  obtain ⟨path, parameters, rfl⟩ := MethodConfig.foldlM_addParameter_ok hstart
  cases hapi : e.2.api with
  | none =>
    rw [hapi] at h
    cases h
    exact ⟨_, ⟨rfl, fun s => by
      rw [s.method_parameters, Option.getD_none, s.method_ofMethod, hapi]; rfl⟩, rfl⟩
  | some a =>
    rw [hapi] at h
    obtain ⟨m, hm, h⟩ := ok_of_bind h
    cases h
    refine ⟨m, ⟨?_, fun s => ?_⟩, rfl⟩
    · obtain ⟨_, _, ⟨⟩, rfl⟩ := MethodConfig.annotate_ok hm
      rfl
    · rw [s.method_annotate hm, s.method_parameters, Option.getD_none, s.method_ofMethod, hapi,
        Option.or_none]
      rfl

/-- Declarations with keys of their own configure one new method each, in order and under its key.
What holds of a method after one step of the fold holds of it in the end. -/
theorem foldlM_load_entries {R : EndpointMethod × MethodDecl → MethodConfig → Prop}
    (hstep : ∀ {ms ms' : MethodConfigs} {e : EndpointMethod × MethodDecl}, ms.get? e.1.key = none →
      load c rules ms e = .ok ms' → ∃ m, R e m ∧ ms' = ms.insert e.1.key m) :
    ∀ {es : List (EndpointMethod × MethodDecl)} {ms ms' : MethodConfigs},
      es.foldlM (load c rules) ms = .ok ms' → (es.map (·.1.key)).Nodup →
        (∀ e ∈ es, ms.get? e.1.key = none) →
        ∃ added, ms'.entries = ms.entries ++ added ∧
          List.Forall₂ (fun e (a : MethodKey × MethodConfig) => a.1 = e.1.key ∧ R e a.2) es added
  | [], ms, _, h, _, _ => by
    cases h
    exact ⟨[], (List.append_nil _).symm, .nil⟩
  | e :: es, ms, ms', h, hnodup, hnew => by
    rw [List.foldlM_cons] at h
    obtain ⟨ms₁, hfirst, h⟩ := ok_of_bind h
    have hnone := hnew e List.mem_cons_self
    obtain ⟨m, hm, rfl⟩ := hstep hnone hfirst
    obtain ⟨hkey, hnodup⟩ := List.nodup_cons.mp hnodup
    have hrest : ∀ e' ∈ es, (ms.insert e.1.key m).get? e'.1.key = none := fun e' he' => by
      have hne : e'.1.key ≠ e.1.key := fun heq => hkey (List.mem_map.mpr ⟨e', he', heq⟩)
      rw [OrderedMap.get?_insert, if_neg hne]
      exact hnew e' (List.mem_cons_of_mem e he')
    obtain ⟨added, hentries, hadded⟩ := foldlM_load_entries hstep h hnodup hrest
    refine ⟨(e.1.key, m) :: added, ?_, .cons ⟨rfl, hm⟩ hadded⟩
    rw [hentries, OrderedMap.entries_insert_of_none hnone, List.append_assoc, List.singleton_append]

theorem foldlM_load_ok {R : EndpointMethod × MethodDecl → MethodConfig → Prop}
    (hstep : ∀ {ms ms' : MethodConfigs} {e : EndpointMethod × MethodDecl}, ms.get? e.1.key = none →
      load c rules ms e = .ok ms' → ∃ m, R e m ∧ ms' = ms.insert e.1.key m)
    {es : List (EndpointMethod × MethodDecl)} {ms ms' : MethodConfigs}
    (h : es.foldlM (load c rules) ms = .ok ms') (hnodup : (es.map (·.1.key)).Nodup)
    (hnew : ∀ e ∈ es, ms.get? e.1.key = none) :
    ∃ added, ms'.values = ms.values ++ added ∧ List.Forall₂ R es added := by
  obtain ⟨added, hentries, hadded⟩ := foldlM_load_entries hstep h hnodup hnew
  refine ⟨added.map Prod.snd, ?_, List.forall₂_map_right_iff.mpr (hadded.imp fun _ _ => And.right)⟩
  rw [OrderedMap.values, hentries, List.map_append]
  rfl

end MethodConfigs

namespace ConfigSource

variable {context : ServiceContext} {decl : ClassDecl}

theorem runClass_annotations (h : annotations.runClass context decl x = .ok y) :
    y.shared = x.shared ∧ y.methods = x.methods ∧ ∀ {α : Type} (s : Setting α),
      s.serviceClass y.classConfig =
        (decl.apiClass.bind s.ofClass).or (s.serviceClass x.classConfig) ∧
        s.api y = ((x.catalog.annotationChain decl).reverse.findSome? s.ofApi).or (s.api x) := by
  obtain ⟨last, hlast, h⟩ := ok_of_bind h
  cases h
  obtain ⟨hshared, hclass⟩ := ApiConfig.foldlM_annotate_ok hlast
  refine ⟨hshared, ?_, fun s => ⟨?_, ?_⟩⟩
  · cases decl.apiClass <;> simp [ApiConfig.methods, hclass, ClassConfig.annotate]
  · cases decl.apiClass with
    | none => simp [hclass]
    | some a => simp [hclass, s.class_annotate]
  · rw [s.api_classConfig, s.api_foldlM hlast]

theorem runMethods_annotations (h : annotations.runMethods context decl x = .ok y)
    (hnone : x.methods = .empty) : ∃ methods, y = x.setMethods methods ∧
      ∀ m ∈ methods.values, ∃ e, x.catalog.mostDerived? decl.name e.1.signature = some e ∧
        m.IsDeclaredBy e := by
  obtain ⟨methods, hmethods, rfl⟩ := runMethods_eq_ok.mp h
  obtain ⟨es, hes, hload⟩ := ok_of_bind hmethods
  obtain ⟨hderived, hnodup⟩ := Catalog.endpointMethods_ok hes
  rw [hnone] at hload
  obtain ⟨added, hvalues, hadded⟩ := MethodConfigs.foldlM_load_ok MethodConfigs.load_ok hload hnodup
    fun _ _ => rfl
  refine ⟨methods, rfl, fun m hm => ?_⟩
  rw [hvalues] at hm
  obtain ⟨e, he, hm⟩ := exists_of_forall₂ hadded m hm
  exact ⟨e, hderived e he, hm⟩

end ConfigSource

/-- The annotations that bear on a method. -/
structure Layers where
  ofMethod : Option MethodAnnotation
  ofClass : Option ClassAnnotation
  /-- The least specific first. -/
  ofApi : List ApiAnnotation

/-- What the nearest annotation gives that gives anything. -/
def Layers.nearest? (l : Layers) (ofMethod : MethodAnnotation → Option α)
    (ofClass : ClassAnnotation → Option α) (ofApi : ApiAnnotation → Option α) : Option α :=
  (l.ofMethod.bind ofMethod).or ((l.ofClass.bind ofClass).or (l.ofApi.reverse.findSome? ofApi))

/-- Which declaration each method of a loaded configuration has, and all its settings. -/
theorem Loader.loaded_ok {shared : SharedCatalog} {context : ServiceContext} {serviceClass : String}
    {config : ApiConfig} (h : ({ shared } : Loader).loaded context serviceClass = .ok config) :
    ∃ decl, shared.catalog.class? serviceClass = some decl ∧ ∀ m ∈ config.methodScopes,
      ∃ e, shared.catalog.mostDerived? decl.name m.method.endpoint.signature = some e ∧
        m.method.endpoint = e.1 ∧
        ∀ {α : Type} (s : Setting α), s.effective m = (Layers.nearest?
          ⟨e.2.api, decl.apiClass, shared.catalog.annotationChain decl⟩
          s.ofMethod s.ofClass s.ofApi).or s.default := by
  obtain ⟨decl, top, hdecl, htop, hmethods⟩ := loaded_annotations _ _ h
  obtain ⟨hshared, hnone, hsettings⟩ := ConfigSource.runClass_annotations htop
  obtain ⟨methods, rfl, hdeclared⟩ := ConfigSource.runMethods_annotations hmethods hnone
  refine ⟨decl, hdecl, fun m hm => ?_⟩
  obtain ⟨config, hconfig, rfl⟩ := List.mem_map.mp hm
  obtain ⟨e, hderived, hm⟩ := hdeclared config hconfig
  have hcatalog : top.catalog = shared.catalog := congrArg SharedCatalog.catalog hshared
  refine ⟨e, ?_, hm.endpoint, fun s => ?_⟩
  · rw [← hcatalog, hm.endpoint]
    exact hderived
  · obtain ⟨hclass, hapi⟩ := hsettings s
    rw [Setting.effective, hm.method s, ApiConfig.setMethods, s.api_classConfig,
      s.class_methods, hclass,
      hapi, s.api_default, ApiConfig.default, s.class_default, Option.or_none, Layers.nearest?,
      Option.or_assoc, Option.or_assoc]
    rfl

/-- What is read of a method is what the nearest annotation gives, and the default where none gives
anything. A level that is left to the enclosing tier is not given. -/
structure MethodScope.Follows (m : MethodScope) (l : Layers) : Prop where
  authLevel : m.authLevel = (l.nearest? (fun a => AuthLevel.specified? a.authLevel)
    (fun a => AuthLevel.specified? a.authLevel)
    (fun a => AuthLevel.specified? a.authLevel)).getD .none
  authLevel_ne_unspecified : m.authLevel ≠ .unspecified
  scopes : m.scopes = .ofScopes ((l.nearest? (·.scopes) (·.scopes) (·.scopes)).getD [defaultScope])
  audiences : m.audiences = (l.nearest? (·.audiences) (·.audiences) (·.audiences)).getD []
  issuerAudiences : m.issuerAudiences =
    .ofList ((l.nearest? (·.issuerAudiences) (·.issuerAudiences) (·.issuerAudiences)).getD [])
  clientIds : m.clientIds =
    (l.nearest? (·.clientIds) (·.clientIds) (·.clientIds)).getD [defaultClientId]
  authenticators : m.authenticators =
    l.nearest? (·.authenticators) (·.authenticators) (·.authenticators)
  peerAuthenticators : m.peerAuthenticators =
    l.nearest? (·.peerAuthenticators) (·.peerAuthenticators) (·.peerAuthenticators)
  apiKeyRequired : m.apiKeyRequired =
    (l.nearest? (·.apiKeyRequired) (·.apiKeyRequired) (·.apiKeyRequired)).getD false

theorem Layers.nearest?_map {β : Type} (l : Layers) (f : α → β)
    (ofMethod : MethodAnnotation → Option α)
    (ofClass : ClassAnnotation → Option α) (ofApi : ApiAnnotation → Option α) :
    l.nearest? (fun a => (ofMethod a).map f) (fun a => (ofClass a).map f)
        (fun a => (ofApi a).map f) = (l.nearest? ofMethod ofClass ofApi).map f := by
  rw [nearest?, nearest?, Option.map_or, Option.map_or, List.map_findSome?, Option.map_bind,
    Option.map_bind]
  rfl

theorem AuthLevel.specified?_ne (level : Option AuthLevel) :
    specified? level ≠ some unspecified := by
  rcases level with _ | level
  · decide
  · cases level <;> decide

/-- What no annotation gives, the nearest does not give. -/
theorem Layers.nearest?_ne {l : Layers} {ofMethod : MethodAnnotation → Option α}
    {ofClass : ClassAnnotation → Option α} {ofApi : ApiAnnotation → Option α} {v : α}
    (hmethod : ∀ a, ofMethod a ≠ some v) (hclass : ∀ a, ofClass a ≠ some v)
    (hapi : ∀ a, ofApi a ≠ some v) :
    l.nearest? ofMethod ofClass ofApi ≠ some v := by
  intro h
  rw [nearest?, Option.or_eq_some_iff, Option.or_eq_some_iff] at h
  rcases h with h | ⟨-, h | ⟨-, h⟩⟩
  · obtain ⟨a, -, ha⟩ := Option.bind_eq_some_iff.mp h
    exact hmethod a ha
  · obtain ⟨a, -, ha⟩ := Option.bind_eq_some_iff.mp h
    exact hclass a ha
  · obtain ⟨a, -, ha⟩ := List.exists_of_findSome?_eq_some h
    exact hapi a ha

theorem MethodScope.follows_of_effective {m : MethodScope} {l : Layers}
    (h : ∀ {α : Type} (s : Setting α), s.effective m =
      (l.nearest? s.ofMethod s.ofClass s.ofApi).or s.default) :
    m.Follows l := by
  have hvalue {α : Type} {s : Setting α} {v d : α} (hv : s.effective m = some v)
      (hd : s.default = some d) : v = (l.nearest? s.ofMethod s.ofClass s.ofApi).getD d := by
    rw [h s, hd, Option.or_some] at hv
    exact (Option.some.inj hv).symm
  have hlevel : m.authLevel = (l.nearest? (fun a => AuthLevel.specified? a.authLevel)
      (fun a => AuthLevel.specified? a.authLevel)
      (fun a => AuthLevel.specified? a.authLevel)).getD .none :=
    hvalue (s := .authLevel) (by
      simp [Setting.effective, Setting.authLevel, authLevel, ApiConfig.classAuthLevel,
        AuthLevel.orElse]) rfl
  refine ⟨hlevel, ?_, ?_, ?_, ?_, ?_, ?_, ?_, ?_⟩
  · rw [hlevel]
    cases hnearest : l.nearest? (fun a => AuthLevel.specified? a.authLevel)
      (fun a => AuthLevel.specified? a.authLevel) (fun a => AuthLevel.specified? a.authLevel) with
    | none => decide
    | some level =>
      rintro rfl
      exact Layers.nearest?_ne (fun _ => AuthLevel.specified?_ne _)
        (fun _ => AuthLevel.specified?_ne _) (fun _ => AuthLevel.specified?_ne _) hnearest
  · have hscopes := hvalue (s := .scopes) (v := m.scopes)
      (by simp [Setting.effective, Setting.scopes, scopes, ApiConfig.classScopes]) rfl
    rw [hscopes, ← Option.getD_map ScopeExpression.ofScopes, ← Layers.nearest?_map]
    rfl
  · exact hvalue (s := .audiences) (by
      simp [Setting.effective, Setting.audiences, audiences, ApiConfig.classAudiences]) rfl
  · have hissuers := hvalue (s := .issuerAudiences) (v := m.issuerAudiences)
      (by
        simp [Setting.effective, Setting.issuerAudiences, issuerAudiences,
          ApiConfig.classIssuerAudiences]) rfl
    rw [hissuers, ← Option.getD_map IssuerAudiences.ofList, ← Layers.nearest?_map]
    rfl
  · exact hvalue (s := .clientIds) (by
      simp [Setting.effective, Setting.clientIds, clientIds, ApiConfig.classClientIds]) rfl
  · exact (h .authenticators).trans Option.or_none
  · exact (h .peerAuthenticators).trans Option.or_none
  · exact hvalue (s := .apiKeyRequired) (by
      simp [Setting.effective, Setting.apiKeyRequired, apiKeyRequired,
        ApiConfig.classApiKeyRequired]) rfl

variable {shared : SharedCatalog} {context : ServiceContext}
  {serviceClass : String} {log : List Pass} {config : ApiConfig}

/-- In a configuration that was loaded from annotations alone, every method is one that is declared,
with the most derived of the declarations that have its signature, and its settings are those that
the nearest annotation gives: the one of that declaration, then the one of the class, then the last
one of the API. -/
theorem settings_come_from_the_nearest_layer
    (h : (({ shared } : Loader).load context serviceClass).result log = .ok config) :
    ∃ decl, shared.catalog.class? serviceClass = some decl ∧ ∀ m ∈ config.methodScopes,
      ∃ e, shared.catalog.mostDerived? decl.name m.method.endpoint.signature = some e ∧
        m.method.endpoint = e.1 ∧
        m.Follows ⟨e.2.api, decl.apiClass, shared.catalog.annotationChain decl⟩ := by
  rw [Loader.answers_load _ context serviceClass log] at h
  obtain ⟨decl, hdecl, hmethods⟩ := Loader.loaded_ok h
  refine ⟨decl, hdecl, fun m hm => ?_⟩
  obtain ⟨e, hderived, hendpoint, hsettings⟩ := hmethods m hm
  exact ⟨e, hderived, hendpoint, MethodScope.follows_of_effective hsettings⟩

theorem settings_come_from_the_nearest_layer_shelf :
    let store : ClassDecl :=
      { name := "Store", api := some { authLevel := some .optional, audiences := some ["all"] }
        methods := [{ name := "list", api := some { audiences := some ["old"] } }] }
    let shelf : ClassDecl :=
      { name := "Shelf", superclass := some (.raw "Store"),
        api := some { authLevel := some .unspecified }
        apiClass := some { clientIds := some [] }, methods := [{ name := "list" }] }
    let catalog : Catalog := (Catalog.builtin.addClass store).addClass shelf
    ∃ config, (({ shared := ⟨"main", catalog⟩ } : Loader).load {} "Shelf").result [] = .ok config ∧
      config.methodScopes.map (fun m => (m.authLevel, m.audiences, m.clientIds)) =
        [(.optional, ["all"], [])] ∧
      ∃ decl, catalog.class? "Shelf" = some decl ∧ ∀ m ∈ config.methodScopes,
        ∃ e, catalog.mostDerived? decl.name m.method.endpoint.signature = some e ∧
          m.method.endpoint = e.1 ∧
            m.Follows ⟨e.2.api, decl.apiClass, catalog.annotationChain decl⟩ := by
  intro store shelf catalog
  let loaded := (({ shared := ⟨"main", catalog⟩ } : Loader).load {} "Shelf").result []
  obtain ⟨config, hconfig⟩ : ∃ config, loaded = .ok config := exists_of_isOk (by decide +kernel)
  have hvalues : (loaded.toOption.map fun config : ApiConfig => config.methodScopes.map fun m =>
      (m.authLevel, m.audiences, m.clientIds)) =
        some [(.optional, ["all"], [])] := by decide +kernel
  rw [hconfig] at hvalues
  exact ⟨config, hconfig, Option.some.inj hvalues, settings_come_from_the_nearest_layer hconfig⟩

end ServiceApi
