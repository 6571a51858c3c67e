import ServiceApi.Load.Annotations

/-!
# Loading configurations

A configuration starts from the defaults. The annotations are applied to the API and the class, then
the class passes of the further sources in order, so that a later source wins; then the same for the
methods. A reload runs only the sources that may change without a new deployment, on the
configuration that there is.
-/

namespace ServiceApi

/-- A provider of settings. Its method pass sees and changes the methods alone. -/
structure ConfigSource where
  name : String
  /-- Reads the annotations, which a loader does by itself. -/
  readsAnnotations : Bool := false
  /-- What it says about a configuration cannot change without a new deployment. -/
  isStatic : ApiConfig → Bool
  applyClass : ServiceContext → ClassDecl → ApiConfig → Except ApiError ApiConfig
  applyMethods : ServiceContext → ClassDecl → Catalog → SerializationRules → MethodConfigs →
    Except ApiError MethodConfigs

def ConfigSource.annotations : ConfigSource where
  name := "annotations"
  readsAnnotations := true
  isStatic _ := true
  applyClass _ decl config := do
    let config ← (config.catalog.annotationChain decl).foldlM ApiConfig.annotate config
    return { config with
      classConfig := decl.apiClass.elim config.classConfig config.classConfig.annotate }
  applyMethods _ decl c rules ms := do
    (← c.endpointMethods decl.name).foldlM (MethodConfigs.load c rules) ms

/-- A class or method pass of a further source, by the name of the source. -/
inductive Pass where
  | ofClass (source : String)
  | ofMethods (source : String)
  deriving DecidableEq

/-- Loading, with the passes that were begun. -/
abbrev Loading := ExceptT ApiError (StateM (List Pass))

namespace ConfigSource

def runClass (s : ConfigSource) (context : ServiceContext) (decl : ClassDecl)
    (config : ApiConfig) : Except ApiError ApiConfig :=
  s.applyClass context decl config

def runMethods (s : ConfigSource) (context : ServiceContext) (decl : ClassDecl)
    (config : ApiConfig) : Except ApiError ApiConfig :=
  (s.applyMethods context decl config.catalog config.rules config.methods).map config.setMethods

end ConfigSource

/-- Runs one pass of every source in order. -/
def runPasses (pass : String → Pass)
    (run : ConfigSource → ApiConfig → Except ApiError ApiConfig) (sources : List ConfigSource)
    (config : ApiConfig) : Loading ApiConfig :=
  sources.foldlM (fun config s => do
    modify (· ++ [pass s.name])
    liftExcept (run s config)) config
where
  liftExcept {α : Type} (r : Except ApiError α) : Loading α := ExceptT.mk (pure r)

structure Loader where
  shared : SharedCatalog
  sources : List ConfigSource := []

namespace Loader

/-- A loader with further sources, none of which may read the annotations again. -/
def withSources (shared : SharedCatalog) (sources : List ConfigSource) : Except ApiError Loader :=
  match sources.find? (·.readsAnnotations) with
  | some s => .error (.duplicateAnnotationSource s.name)
  | none => .ok { shared, sources }

def catalog (l : Loader) : Catalog := l.shared.catalog

def load (l : Loader) (context : ServiceContext) (serviceClass : String) : Loading ApiConfig := do
  let decl ← ExceptT.mk (pure (l.catalog.requireClass serviceClass "load configuration"))
  let config := ApiConfig.default l.shared context serviceClass
  let config ← ExceptT.mk (pure (ConfigSource.annotations.runClass context decl config))
  let config ← runPasses .ofClass (·.runClass context decl) l.sources config
  let config ← ExceptT.mk (pure (ConfigSource.annotations.runMethods context decl config))
  runPasses .ofMethods (·.runMethods context decl) l.sources config

/-- Runs the sources that are not static for `old` on a copy of it. -/
def reload (l : Loader) (context : ServiceContext) (serviceClass : String) (old : ApiConfig) :
    Loading ApiConfig := do
  let decl ← ExceptT.mk (pure (l.catalog.requireClass serviceClass "reload configuration"))
  let dynamic := l.sources.filter (!·.isStatic old)
  let config ← runPasses .ofClass (·.runClass context decl) dynamic old
  runPasses .ofMethods (·.runMethods context decl) dynamic config

/-- The configuration of an API that belongs to the framework: its reserved name, the defaults, and
the annotations of the methods alone. -/
def loadInternal (l : Loader) (context : ServiceContext) (serviceClass : String) :
    Except ApiError ApiConfig := do
  let decl ← l.catalog.requireClass serviceClass "load internal configuration"
  let config := { ApiConfig.default l.shared context serviceClass with name := internalApiName }
  ConfigSource.annotations.runMethods context decl config

/-- No source can change `config` on a reload. -/
def isStatic (l : Loader) (config : ApiConfig) : Bool := l.sources.all (·.isStatic config)

end Loader

end ServiceApi
