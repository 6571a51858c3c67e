import ServiceApi.Proofs.Config.Override
import ServiceApi.Proofs.Load.Passes
import ServiceApi.Proofs.Validated

/-! # Reloading what fixed sources configured

A reload runs the dynamic sources once more on the configuration that there is. Where all sources
give fixed values to fixed fields, it succeeds, and it changes nothing just if each field that a
dynamic source sets has the value from the last of these: a static source that was registered after
it loses what it had overridden. -/

namespace ServiceApi

variable {context : ServiceContext} {decl : ClassDecl} {a : ApiConfig}

/-- A source that gives fixed values to fixed fields, and is always static or never. -/
structure FixedSource where
  name : String
  isStatic : Bool
  top : List TopOverride := []
  onMethods : List SelectedOverride := []
  top_fixed : ∀ o ∈ top, o.isFixed = true
  onMethods_fixed : ∀ o ∈ onMethods, o.override.isFixed = true

namespace FixedSource

def toSource (s : FixedSource) : ConfigSource :=
  .ofOverrides s.name (fun _ => s.isStatic) s.top s.onMethods

/-- The methods after the settings of `os`. -/
def withMethods (os : List SelectedOverride) (a : ApiConfig) : ApiConfig :=
  a.setMethods (a.methods.overridden os)

theorem runClass_eq (s : FixedSource) (a : ApiConfig) :
    s.toSource.runClass context decl a = .ok (s.top.foldl TopOverride.set a) :=
  foldlM_eq_foldl (fun _ ho => TopOverride.apply_eq_set (s.top_fixed _ ho)) a

theorem runMethods_eq (s : FixedSource) (a : ApiConfig) :
    s.toSource.runMethods context decl a = .ok (withMethods s.onMethods a) :=
  ConfigSource.runMethods_eq_ok.mpr
    ⟨_, SelectedOverride.foldlM_apply s.onMethods_fixed a.methods, rfl⟩

theorem foldlM_runClass (sources : List FixedSource) (a : ApiConfig) :
    (sources.map toSource).foldlM (fun a s => s.runClass context decl a) a =
      .ok ((sources.flatMap (·.top)).foldl TopOverride.set a) := by
  rw [List.foldlM_map, List.foldl_flatMap]
  exact foldlM_eq_foldl (fun s _ => s.runClass_eq) a

theorem foldl_withMethods : ∀ (sources : List FixedSource) (a : ApiConfig),
    sources.foldl (fun a s => withMethods s.onMethods a) a =
      withMethods (sources.flatMap (·.onMethods)) a
  | [], a => congrArg a.setMethods a.methods.mapValues_id.symm
  | s :: sources, a => by
    rw [List.foldl_cons, foldl_withMethods sources, List.flatMap_cons]
    exact congrArg a.setMethods (a.methods.overridden_append ..).symm

theorem foldlM_runMethods (sources : List FixedSource) (a : ApiConfig) :
    (sources.map toSource).foldlM (fun a s => s.runMethods context decl a) a =
      .ok (withMethods (sources.flatMap (·.onMethods)) a) := by
  rw [List.foldlM_map, ← foldl_withMethods]
  exact foldlM_eq_foldl (fun s _ => s.runMethods_eq) a

end FixedSource

open FixedSource

variable {shared : SharedCatalog} {serviceClass : String} {log : List Pass} {config : ApiConfig}
  {sources : List FixedSource}

theorem TopOverride.methods_foldl (os : List TopOverride) (a : ApiConfig) :
    (os.foldl set a).methods = a.methods :=
  congrArg (fun rest : SharedCatalog × String × MethodConfigs => rest.2.2) (fields.rest_foldl os a)

theorem TopOverride.foldl_setMethods (methods : MethodConfigs) :
    ∀ (os : List TopOverride) (a : ApiConfig),
    os.foldl set (a.setMethods methods) = (os.foldl set a).setMethods methods
  | [], _ => rfl
  | o :: os, a => by
    rw [List.foldl_cons, List.foldl_cons, set_setMethods, foldl_setMethods methods os]

/-- A loaded configuration is what all overrides make of some start, those of the methods last. -/
theorem Loader.loaded_fixed
    (h : ({ shared, sources := sources.map toSource } : Loader).loaded context serviceClass =
      .ok config) :
    ∃ decl start, shared.catalog.class? serviceClass = some decl ∧
      config = withMethods (sources.flatMap (·.onMethods))
        ((sources.flatMap (·.top)).foldl TopOverride.set start) := by
  obtain ⟨decl, hdecl, h⟩ := ok_of_bind h
  obtain ⟨start, -, h⟩ := ok_of_bind h
  obtain ⟨top, htop, h⟩ := ok_of_bind h
  rw [foldlM_runClass] at htop
  cases htop
  obtain ⟨withAll, hmethods, h⟩ := ok_of_bind h
  obtain ⟨methods, -, rfl⟩ := ConfigSource.runMethods_eq_ok.mp hmethods
  rw [foldlM_runMethods, ← TopOverride.foldl_setMethods] at h
  exact ⟨decl, start.setMethods methods, Catalog.requireClass_eq_ok.mp hdecl,
    (Except.ok.inj h).symm⟩

/-- The overrides of the dynamic sources, done once more. -/
theorem Loader.reloaded_fixed (hdecl : shared.catalog.class? serviceClass = some decl) :
    ({ shared, sources := sources.map toSource } : Loader).reloaded context serviceClass config =
      .ok (withMethods ((sources.filter (!·.isStatic)).flatMap (·.onMethods))
        (((sources.filter (!·.isStatic)).flatMap (·.top)).foldl TopOverride.set config)) := by
  have hdynamic : (sources.map toSource).filter (!·.isStatic config) =
      (sources.filter (!·.isStatic)).map toSource := List.filter_map ..
  have hclass : shared.catalog.requireClass serviceClass "reload configuration" = .ok decl :=
    Catalog.requireClass_eq_ok.mpr hdecl
  simp only [reloaded, catalog, hclass, hdynamic, bind, Except.bind, foldlM_runClass,
    foldlM_runMethods]

/-- Nothing changes just if neither the settings above the methods do nor the methods. -/
theorem withMethods_eq_iff {os : List SelectedOverride} {b : ApiConfig}
    (h : b.methods = a.methods) :
    withMethods os b = a ↔ b = a ∧ a.methods.overridden os = a.methods := by
  constructor
  · intro heq
    have hmethods : a.methods.overridden os = a.methods := by
      rw [← h]
      exact (congrArg ApiConfig.methods heq).trans h.symm
    refine ⟨?_, hmethods⟩
    rw [withMethods, h, hmethods, ← h] at heq
    exact heq
  · rintro ⟨rfl, hmethods⟩
    rw [withMethods, hmethods]
    rfl

/-- What fixed sources configured a reload changes just if some field was set by a static source
after a dynamic one, to another value. It never fails. -/
theorem reload_keeps_what_dynamic_sources_set_last (log' : List Pass)
    (h : (({ shared, sources := sources.map toSource } : Loader).load context
      serviceClass).result log = .ok config) :
    let dynamic := sources.filter (!·.isStatic)
    ∃ config', (({ shared, sources := sources.map toSource } : Loader).reload context serviceClass
        config).result log' = .ok config' ∧
      (config' = config ↔
        TopOverride.fields.Steady (dynamic.flatMap (·.top)) (sources.flatMap (·.top)) ∧
        ∀ m ∈ config.methods.values, MethodOverride.fields.Steady
          (SelectedOverride.overridesFor m (dynamic.flatMap (·.onMethods)))
          (SelectedOverride.overridesFor m (sources.flatMap (·.onMethods)))) := by
  intro dynamic
  rw [Loader.answers_load _ context serviceClass log] at h
  obtain ⟨decl, start, hdecl, hconfig⟩ := Loader.loaded_fixed h
  refine ⟨_,
    (Loader.answers_reload _ context serviceClass config log').trans (Loader.reloaded_fixed hdecl),
    ?_⟩
  rw [withMethods_eq_iff (TopOverride.methods_foldl _ config)]
  refine and_congr ?_ ?_
  · rw [hconfig, withMethods, ← TopOverride.foldl_setMethods]
    exact TopOverride.fields.foldl_foldl_eq_iff fun o => mem_flatMap_of_filter
  · rw [hconfig]
    exact MethodConfigs.overridden_overridden_eq_iff fun o => mem_flatMap_of_filter

/-- A source that sets the title of an API and the path of its method. -/
def titleSource (name : String) (isStatic : Bool) (title : String) : FixedSource where
  name
  isStatic
  top := [.api (.title (some title))]
  onMethods := [⟨.named "list", .path title⟩]
  top_fixed := List.forall_mem_singleton.mpr rfl
  onMethods_fixed := List.forall_mem_singleton.mpr rfl

theorem reload_keeps_what_dynamic_sources_set_last_shelf :
    let catalog := Catalog.builtin.addClass { name := "Shelf", methods := [{ name := "list" }] }
    let sources := [titleSource "deployed" true "first", titleSource "live" false "second"]
    let loader : Loader :=
      { shared := ⟨"main", catalog⟩, sources := sources.map FixedSource.toSource }
    ∃ config, (loader.load {} "Shelf").result [] = .ok config ∧ config.title = some "second" ∧
      (loader.reload {} "Shelf" config).result [] = .ok config := by
  intro catalog sources loader
  let loaded := (loader.load {} "Shelf").result []
  obtain ⟨config, hconfig⟩ : ∃ config, loaded = .ok config := exists_of_isOk (by decide +kernel)
  have htitle : loaded.toOption.map (·.title) = some (some "second") := by decide +kernel
  rw [hconfig] at htitle
  obtain ⟨config', hreload, hsame⟩ := reload_keeps_what_dynamic_sources_set_last [] hconfig
  refine ⟨config, hconfig, Option.some.inj htitle,
    hreload.trans (congrArg Except.ok (hsame.mpr ?_))⟩
  -- What the dynamic source sets stands at the end of all that is set.
  exact ⟨TopOverride.fields.steady_append [.api (.title (some "first"))] _, fun m _ => by
    rw [show sources.flatMap (·.onMethods) = [⟨.named "list", .path "first"⟩] ++
      (sources.filter (!·.isStatic)).flatMap (·.onMethods) from rfl,
        SelectedOverride.overridesFor_append]
    exact MethodOverride.fields.steady_append _ _⟩

/-- A static source overrides a dynamic one until the dynamic one runs again. -/
theorem reload_forgets_static_override :
    let catalog := Catalog.builtin.addClass { name := "Shelf", methods := [{ name := "list" }] }
    let sources := [titleSource "live" false "first", titleSource "deployed" true "second"]
    let loader : Loader :=
      { shared := ⟨"main", catalog⟩, sources := sources.map FixedSource.toSource }
    ∃ config config', (loader.load {} "Shelf").result [] = .ok config ∧
      config.title = some "second" ∧
      (loader.reload {} "Shelf" config).result [] = .ok config' ∧ config'.title = some "first" ∧
      config' ≠ config := by
  intro catalog sources loader
  let loaded := (loader.load {} "Shelf").result []
  obtain ⟨config, hconfig⟩ : ∃ config, loaded = .ok config := exists_of_isOk (by decide +kernel)
  have htitle : loaded.toOption.map (·.title) = some (some "second") := by decide +kernel
  let reloaded := loaded.bind fun config => (loader.reload {} "Shelf" config).result []
  obtain ⟨config', hreload⟩ : ∃ config', reloaded = .ok config' :=
    exists_of_isOk (by decide +kernel)
  have htitle' : reloaded.toOption.map (·.title) = some (some "first") := by decide +kernel
  have hagain : reloaded = (loader.reload {} "Shelf" config).result [] := by
    rw [show reloaded = loaded.bind _ from rfl, hconfig]
    rfl
  rw [hconfig] at htitle
  rw [hreload] at htitle'
  have hsecond : config.title = some "second" := Option.some.inj htitle
  have hfirst : config'.title = some "first" := Option.some.inj htitle'
  refine ⟨config, config', hconfig, hsecond, hagain.symm.trans hreload, hfirst, ?_⟩
  rintro rfl
  exact absurd (hsecond.symm.trans hfirst) (by decide)

end ServiceApi
