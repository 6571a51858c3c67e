import ServiceApi.Proofs.Load.Tiers
import ServiceApi.Proofs.Text
import ServiceApi.Proofs.Validated.Placeholders

/-! # The path of a method that is given none

It begins with the resource that the method's name implies, or with the name, and goes on with a
placeholder for each parameter that cannot be left out and is sent as one value. After any number of
parameters the path is the one that these parameters make, whatever was looked up in it on the way:
as long as names have no braces, a path mentions those that it was extended with and no others. -/

namespace ServiceApi

variable {m m' : MethodConfig} {p : ParameterConfig} {c : Catalog} {rules : SerializationRules}
  {base : String} {e : EndpointMethod × MethodDecl}

/-! ## What a parameter adds -/

/-- It cannot be left out, and is sent as one value in the path or the query. -/
def ParameterConfig.standsInPath (p : ParameterConfig) (c : Catalog)
    (rules : SerializationRules) : Bool :=
  p.isRequired && p.isApiParameter c rules && (p.isRepeated c rules).toOption == some false

namespace MethodConfig

/-- What the parameters are called that stand in the path, each name once. -/
def requiredNames (m : MethodConfig) (c : Catalog) (rules : SerializationRules) : List String :=
  ((m.parameters.filter (·.standsInPath c rules)).filterMap (·.name)).eraseDups

theorem pathWith_ok {path : String} (h : m.pathWith p c rules = .ok path) :
    path = if p.standsInPath c rules then p.name.elim m.path fun name =>
      if Path.mentions m.path name then m.path else Path.extend m.path name else m.path := by
  rw [pathWith] at h
  rw [ParameterConfig.standsInPath]
  cases hrequired : p.isRequired with
  | false =>
    rw [hrequired] at h
    cases h
    rfl
  | true =>
    rw [hrequired] at h
    obtain ⟨kind, hkind, h⟩ := ok_of_bind h
    rw [p.isApiParameter_eq hkind]
    by_cases hkinds : kind = .apiParameter
    · subst hkinds
      obtain ⟨repeated, hrepeated, h⟩ := ok_of_bind h
      rw [hrepeated]
      cases repeated with
      | true =>
        cases h
        rfl
      | false =>
        cases hname : p.name with
        | none =>
          rw [hname] at h
          cases h
          rfl
        | some name =>
          rw [hname] at h
          cases h
          rfl
    · rw [if_pos (by simpa using hkinds)] at h
      cases h
      rw [beq_false_of_ne hkinds, Bool.and_false, Bool.false_and, if_neg Bool.false_ne_true]

theorem addParameter_parameters (h : m.addParameter p c rules = .ok m') :
    m.pathWith p c rules = .ok m'.path ∧ m'.parameters = m.parameters ++ [p] := by
  obtain ⟨⟨⟩, -, h⟩ := ok_of_bind h
  obtain ⟨path, hpath, h⟩ := ok_of_bind h
  cases h
  exact ⟨hpath, rfl⟩

/-- The names of all parameters are without braces. -/
def HasPlainNames (m : MethodConfig) : Prop :=
  ∀ p ∈ m.parameters, ∀ name ∈ p.name, Path.IsPlain name

theorem HasPlainNames.requiredNames (h : m.HasPlainNames) :
    ∀ name ∈ m.requiredNames c rules, Path.IsPlain name := by
  intro name hname
  obtain ⟨p, hp, hname⟩ := List.mem_filterMap.mp (List.mem_eraseDups.mp hname)
  exact h p (List.mem_of_mem_filter hp) name hname

/-- A parameter that is added leaves the path as the parameters make it. -/
theorem addParameter_path (hbase : Path.IsPlain base) (hplain : m'.HasPlainNames)
    (h : m.addParameter p c rules = .ok m')
    (hm : m.path = Path.joined base (m.requiredNames c rules)) :
    m'.path = Path.joined base (m'.requiredNames c rules) := by
  obtain ⟨hpath, hparameters⟩ := addParameter_parameters h
  have hold : m.HasPlainNames := fun q hq => hplain q (hparameters ▸ List.mem_append_left _ hq)
  have hnew : ∀ name ∈ p.name, Path.IsPlain name :=
    hplain p (hparameters ▸ List.mem_append_right _ (List.mem_singleton_self p))
  have hplaced : Path.placeholders m.path = m.requiredNames c rules :=
    hm ▸ Path.placeholders_joined hbase hold.requiredNames
  rw [pathWith_ok hpath]
  by_cases hstands : p.standsInPath c rules = true
  · rw [if_pos hstands]
    cases hname : p.name with
    | none =>
      have hsame : m'.requiredNames c rules = m.requiredNames c rules := by
        simp [requiredNames, hparameters, hname, hstands]
      rw [hsame, ← hm]
      rfl
    | some name =>
      have hnames : m'.requiredNames c rules =
        if name ∈ m.requiredNames c rules then m.requiredNames c rules
          else m.requiredNames c rules ++ [name] := by
        rw [requiredNames, requiredNames, ← eraseDups_concat, hparameters, List.filter_append,
          List.filterMap_append, List.filter_cons_of_pos (by exact hstands)]
        simp [hname]
      have hmentions := Path.mentions_iff (hplaced ▸ hold.requiredNames) (hnew name hname)
      rw [hplaced] at hmentions
      rw [hnames, Option.elim_some]
      by_cases hmem : name ∈ m.requiredNames c rules
      · rw [if_pos (hmentions.mpr hmem), if_pos hmem, hm]
      · rw [if_neg (mt hmentions.mp hmem), if_neg hmem, hm, Path.extend_joined]
  · have hsame : m'.requiredNames c rules = m.requiredNames c rules := by
      simp [requiredNames, hparameters, hstands]
    rw [if_neg hstands, hsame, hm]

theorem foldlM_addParameter_path : ∀ {ps : List (ParameterDecl × TypeExpr)} {m m' : MethodConfig},
    ps.foldlM (fun m (p, type) => m.addParameter (.ofDecl p type) c rules) m = .ok m' →
      m'.parameters = m.parameters ++ ps.map (fun (p, type) => .ofDecl p type) ∧
        (Path.IsPlain base → m'.HasPlainNames →
          m.path = Path.joined base (m.requiredNames c rules) →
          m'.path = Path.joined base (m'.requiredNames c rules))
  | [], m, _, h => by
    cases h
    exact ⟨(List.append_nil _).symm, fun _ _ hm => hm⟩
  | (p, type) :: ps, m, m', h => by
    rw [List.foldlM_cons] at h
    obtain ⟨m₁, hfirst, h⟩ := ok_of_bind h
    obtain ⟨-, hparameters⟩ := addParameter_parameters hfirst
    obtain ⟨hrest, hpath⟩ := foldlM_addParameter_path h
    refine ⟨by rw [hrest, hparameters, List.append_assoc]; rfl, fun hbase hplain hm => ?_⟩
    have hplain₁ : m₁.HasPlainNames := fun q hq => hplain q (hrest ▸ List.mem_append_left _ hq)
    exact hpath hbase hplain (addParameter_path hbase hplain₁ hfirst hm)

/-- An annotation that gives no path leaves the path as it is, and every annotation the
parameters. -/
theorem annotate_path {a : MethodAnnotation} (h : m.annotate a = .ok m') :
    m'.path = a.path.getD m.path ∧ m'.parameters = m.parameters ∧ m'.endpoint = m.endpoint := by
  obtain ⟨_, _, ⟨⟩, rfl⟩ := annotate_ok h
  exact ⟨rfl, rfl, rfl⟩

end MethodConfig

/-! ## A whole load -/

/-- How the path begins of a method that is given none. -/
def EndpointMethod.pathBase (m : EndpointMethod) : String :=
  ((Verb.ofMethodName m.name).resource? m.name).getD m.name

theorem EndpointMethod.plain_pathBase {m : EndpointMethod} (h : Path.IsPlain m.name) :
    Path.IsPlain m.pathBase := by
  rw [pathBase]
  generalize Verb.ofMethodName m.name = verb
  cases hresource : verb.resource? m.name with
  | none => exact h
  | some resource =>
    rw [Verb.resource?] at hresource
    split at hresource
    · cases hresource
    · split at hresource
      · cases hresource
      · cases hresource
      · rename_i rest _ hrest
        cases hresource
        have hmem {c : Char} : c ∈ rest → c ∈ m.name.toList := Text.mem_of_after? hrest
        refine Text.plain_decapitalize ⟨?_, ?_⟩ <;> rw [String.toList_ofList]
        · exact fun hopen => h.1 (hmem hopen)
        · exact fun hclose => h.2 (hmem hclose)

/-- The configuration has the parameters of the declaration, and the path that they make unless the
declaration gives another. -/
structure MethodConfig.IsLaidOutFor (m : MethodConfig)
    (e : EndpointMethod × MethodDecl) (c : Catalog) (rules : SerializationRules) : Prop where
  endpoint : m.endpoint = e.1
  parameters : m.parameters = (e.2.params.zip e.1.parameterTypes).map
    fun (p, type) => .ofDecl p type
  path : e.2.api.bind (·.path) = none → Path.IsPlain e.1.name → m.HasPlainNames →
    m.path = Path.joined e.1.pathBase (m.requiredNames c rules)

namespace MethodConfigs

variable {ms ms' : MethodConfigs}

theorem load_laidOut (hnew : ms.get? e.1.key = none) (h : load c rules ms e = .ok ms') :
    ∃ m : MethodConfig, m.IsLaidOutFor e c rules ∧ ms' = ms.insert e.1.key m := by
  rw [load, hnew] at h
  obtain ⟨start, hstart, h⟩ := ok_of_bind h
  obtain ⟨_, _, hendpoint⟩ := MethodConfig.foldlM_addParameter_ok hstart
  obtain ⟨hparameters, hpath⟩ := MethodConfig.foldlM_addParameter_path hstart
  have hlaid : start.IsLaidOutFor e c rules := by
    refine ⟨by rw [hendpoint]; rfl, hparameters, fun _ hname hplain => ?_⟩
    exact hpath (EndpointMethod.plain_pathBase hname) hplain (Path.joined_nil _).symm
  cases hapi : e.2.api with
  | none =>
    rw [hapi] at h
    cases h
    exact ⟨start, hlaid, rfl⟩
  | some a =>
    rw [hapi] at h
    obtain ⟨m, hm, h⟩ := ok_of_bind h
    cases h
    obtain ⟨hmpath, hmparameters, hmendpoint⟩ := MethodConfig.annotate_path hm
    have hnames : m.requiredNames c rules = start.requiredNames c rules := by
      rw [MethodConfig.requiredNames, hmparameters, MethodConfig.requiredNames]
    refine ⟨m, ⟨hmendpoint.trans hlaid.endpoint, hmparameters.trans hlaid.parameters,
      fun hnone hname hplain => ?_⟩, rfl⟩
    have hplain : start.HasPlainNames := fun p hp => hplain p (hmparameters ▸ hp)
    have hpath : a.path = none := by rwa [hapi] at hnone
    rw [hmpath, hpath, hnames]
    exact hlaid.path hnone hname hplain

end MethodConfigs

variable {shared : SharedCatalog} {context : ServiceContext}
  {serviceClass : String} {log : List Pass} {config : ApiConfig}

theorem Loader.loaded_laidOut (h : ({ shared } : Loader).loaded context serviceClass = .ok config) :
    ∃ decl es, shared.catalog.class? serviceClass = some decl ∧
      shared.catalog.endpointMethods decl.name = .ok es ∧
      List.Forall₂ (fun e (m : MethodConfig) => m.IsLaidOutFor e config.catalog config.rules) es
        config.methods.values := by
  obtain ⟨decl, top, hdecl, htop, hmethods⟩ := loaded_annotations _ _ h
  obtain ⟨hshared, hnone, -⟩ := ConfigSource.runClass_annotations htop
  obtain ⟨methods, happly, rfl⟩ := ConfigSource.runMethods_eq_ok.mp hmethods
  obtain ⟨es, hes, hload⟩ := ok_of_bind happly
  have hcatalog : top.catalog = shared.catalog := congrArg SharedCatalog.catalog hshared
  obtain ⟨-, hnodup⟩ := Catalog.endpointMethods_ok hes
  rw [hnone] at hload
  obtain ⟨added, hvalues, hadded⟩ :=
    MethodConfigs.foldlM_load_ok MethodConfigs.load_laidOut hload hnodup fun _ _ => rfl
  refine ⟨decl, es, hdecl, hcatalog ▸ hes, ?_⟩
  rw [show (top.setMethods methods).methods.values = added from hvalues]
  exact hadded

theorem Catalog.parameterTypes_eq {serviceClass : String}
    (h : c.mostDerived? serviceClass e.1.signature = some e) :
    ∃ view owner, (view, owner) ∈ c.classViews (c.classes.size + 1) [] (.raw serviceClass) ∧
      owner.name = e.1.declaringClass ∧ e.2 ∈ owner.methods ∧
      e.1.parameterTypes = e.2.params.map (·.type.substitute (c.bindings view)) := by
  obtain ⟨⟨view, owner⟩, hview, he⟩ := List.mem_flatMap.mp (List.mem_of_find?_eq_some h)
  obtain ⟨decl, hdecl, rfl⟩ := List.mem_map.mp he
  exact ⟨view, owner, hview, rfl, List.mem_of_mem_filter hdecl, rfl⟩

/-- The path of a method that is given none, and what comes of it. -/
structure MethodScope.HasDefaultPath (m : MethodScope) (names : List String) : Prop where
  path : m.method.path = Path.joined m.method.endpoint.pathBase names
  placeholders : m.method.pathParameters = names
  distinct : names.Nodup
  accepted (fuel : Nat) (location path name : String) :
    Validate.method fuel m ≠ .error (.pathParameterNotFound location path name)

theorem MethodConfig.IsLaidOutFor.hasDefaultPath {config : ApiConfig}
    (h : m.IsLaidOutFor e config.catalog config.rules) (hnone : e.2.api.bind (·.path) = none)
    (hname : Path.IsPlain e.1.name)
    (hplain : ∀ p ∈ e.2.params, ∀ name ∈ p.api.name, Path.IsPlain name) :
    MethodScope.HasDefaultPath ⟨config, m⟩ (m.requiredNames config.catalog config.rules) := by
  have hplain : m.HasPlainNames := by
    intro q hq name hqname
    rw [h.parameters] at hq
    obtain ⟨⟨p, type⟩, hp, rfl⟩ := List.mem_map.mp hq
    exact hplain p (List.of_mem_zip hp).1 name hqname
  have hpath := h.path hnone hname hplain
  rw [← h.endpoint] at hpath hname
  have hplaceholders : m.pathParameters = m.requiredNames config.catalog config.rules := by
    rw [pathParameters, hpath]
    exact Path.placeholders_joined (EndpointMethod.plain_pathBase hname) hplain.requiredNames
  refine ⟨hpath, hplaceholders, nodup_eraseDups _, fun fuel location path name herror => ?_⟩
  have hfound : ∀ name ∈ m.pathParameters, name ∈ MethodScope.apiNames ⟨config, m⟩ := by
    rw [hplaceholders]
    intro name hname
    obtain ⟨p, hp, hpname⟩ := List.mem_filterMap.mp (List.mem_eraseDups.mp hname)
    obtain ⟨hp, hstands⟩ := List.mem_filter.mp hp
    rw [ParameterConfig.standsInPath, Bool.and_eq_true, Bool.and_eq_true] at hstands
    exact List.mem_filterMap.mpr ⟨p, List.mem_filter.mpr ⟨hp, hstands.1.2⟩, hpname⟩
  cases Validate.method_failsBy (m := ⟨config, m⟩) fuel hfound _ herror

/-- A load from annotations configures each method that the service class exposes, with one
parameter for each that is declared, of the type that it has in the view of the service class. The
path of a method that is given none names what is required of the parameters, each name once in the
order of declaration. No placeholder is left without its parameter. -/
theorem default_path_names_what_is_required
    (h : (({ shared } : Loader).load context serviceClass).result log = .ok config) :
    ∃ decl es, shared.catalog.class? serviceClass = some decl ∧
      shared.catalog.endpointMethods decl.name = .ok es ∧
      List.Forall₂ (fun (e : EndpointMethod × MethodDecl) (m : MethodConfig) => m.endpoint = e.1 ∧
        (∃ view owner,
          (view, owner) ∈ shared.catalog.classViews (shared.catalog.classes.size + 1) []
            (.raw decl.name) ∧ owner.name = e.1.declaringClass ∧ e.2 ∈ owner.methods ∧
          m.parameters = e.2.params.map fun p =>
            .ofDecl p (p.type.substitute (shared.catalog.bindings view))) ∧
        (e.2.api.bind (·.path) = none → Path.IsPlain e.1.name →
          (∀ p ∈ e.2.params, ∀ name ∈ p.api.name, Path.IsPlain name) →
          MethodScope.HasDefaultPath ⟨config, m⟩ (m.requiredNames config.catalog config.rules)))
        es config.methods.values := by
  rw [Loader.answers_load _ context serviceClass log] at h
  obtain ⟨decl, es, hdecl, hes, hlaid⟩ := Loader.loaded_laidOut h
  obtain ⟨hderived, -⟩ := Catalog.endpointMethods_ok hes
  refine ⟨decl, es, hdecl, hes, ?_⟩
  refine ((List.forall₂_and_left _ _).mpr ⟨hderived, hlaid⟩).imp fun e m ⟨he, hm⟩ => ?_
  refine ⟨hm.endpoint, ?_, hm.hasDefaultPath⟩
  obtain ⟨view, owner, hview, howner, hdeclared, htypes⟩ := Catalog.parameterTypes_eq he
  refine ⟨view, owner, hview, howner, hdeclared, ?_⟩
  rw [hm.parameters, htypes, List.zip_map_right, List.zip_eq_zipWith,
    List.zipWith_self, List.map_map, List.map_map]
  rfl

theorem default_path_names_what_is_required_books :
    let store : ClassDecl :=
      { name := "Store", typeParams := ["K"]
        methods := [{
          name := "removeBook"
          params := [
            { type := .var "K", api := { name := some "id" } },
            { type := .raw "String", api := { name := some "shelf" } },
            { type := .raw "Integer", api := { name := some "row", nullable := true } },
            { type := .named "List" [.raw "String"], api := { name := some "marks" } },
            { type := .raw "User" },
            { type := .raw "Long", api := { name := some "id" } }] }] }
    let shelf : ClassDecl :=
      { name := "Shelf", superclass := some (.named "Store" [.raw "String"]) }
    let catalog : Catalog := (Catalog.builtin.addClass store).addClass shelf
    ∃ config, (({ shared := ⟨"main", catalog⟩ } : Loader).load {} "Shelf").result [] = .ok config ∧
      config.methods.values.map (fun m => (m.path, m.parameters.map (·.type.text))) =
        [("book/\x7bid\x7d/\x7bshelf\x7d",
          ["String", "String", "Integer", "List<String>", "User", "Long"])] ∧
      ∃ decl es, catalog.class? "Shelf" = some decl ∧ catalog.endpointMethods decl.name = .ok es ∧
        ∀ m ∈ config.methods.values, ∃ e ∈ es, m.endpoint = e.1 ∧
          MethodScope.HasDefaultPath ⟨config, m⟩ (m.requiredNames config.catalog config.rules) := by
  intro store shelf catalog
  let loaded := (({ shared := ⟨"main", catalog⟩ } : Loader).load {} "Shelf").result []
  obtain ⟨config, hconfig⟩ : ∃ config, loaded = .ok config := exists_of_isOk (by decide +kernel)
  have hvalues : (loaded.toOption.map fun config : ApiConfig => config.methods.values.map fun m =>
      (m.path, m.parameters.map (·.type.text))) = some [("book/\x7bid\x7d/\x7bshelf\x7d",
        ["String", "String", "Integer", "List<String>", "User", "Long"])] := by decide +kernel
  rw [hconfig] at hvalues
  have hplain : (catalog.endpointMethods "Shelf").toOption.all (·.all fun e =>
      e.2.api.bind (·.path) = none ∧ Path.IsPlain e.1.name ∧
        ∀ p ∈ e.2.params, ∀ name ∈ p.api.name, Path.IsPlain name) = true := by decide +kernel
  obtain ⟨decl, es, hdecl, hes, hmethods⟩ := default_path_names_what_is_required hconfig
  have hshelf : decl = shelf := Option.some.inj (hdecl.symm.trans (by decide +kernel))
  rw [hshelf] at hes
  rw [show catalog.endpointMethods "Shelf" = .ok es from hes] at hplain
  refine ⟨config, hconfig, Option.some.inj hvalues, decl, es, hdecl, hshelf ▸ hes, fun m hm => ?_⟩
  obtain ⟨e, he, hendpoint, -, hdefault⟩ := exists_of_forall₂ hmethods m hm
  obtain ⟨hnone, hname, hnames⟩ := of_decide_eq_true (List.all_eq_true.mp hplain e he)
  exact ⟨e, he, hendpoint, hdefault hnone hname hnames⟩

end ServiceApi
