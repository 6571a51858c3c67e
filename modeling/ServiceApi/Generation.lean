import ServiceApi.Document.Cache

/-!
# Generation runs

A run takes the configurations of many service classes, groups them by API whatever its root, and
moves every group through its stages. A group that fails keeps its error and the others carry on.
-/

namespace ServiceApi

/-- The configurations of one API in a run. -/
structure ApiGroup where
  configs : List ApiConfig := []
  stage : Stage := .unvalidated
  /-- Why it failed. -/
  error : Option ApiError := none

structure GeneratedDocument where
  key : ApiKey
  /-- `name-version.extension` -/
  fileName : String
  contentType : String
  content : String

/-- What documents are rendered with: the schemas compiled so far, and the cache if there is one. -/
structure RenderState where
  repository : Repository := {}
  cache : Option DocumentCache := none

/-- The document that a text of a writer makes. -/
def DocumentWriter.document (writer : DocumentWriter) (key : ApiKey) (content : String) :
    GeneratedDocument where
  key
  fileName := key.fileStem ++ "." ++ writer.extension
  contentType := writer.contentType
  content

/-- Renders through the cache if there is one. -/
def RenderState.render (s : RenderState) (writer : DocumentWriter) (configs : List ApiConfig) :
    Except ApiError String × RenderState :=
  match s.cache with
  | none =>
    let (result, repository) := (writer.render configs).run.run s.repository
    (result, { s with repository })
  | some cache =>
    let (result, cache, repository) := cache.getOrRenderWith s.repository writer configs
    (result.map (·.text), { repository, cache := some cache })

namespace ApiGroup

def fail (g : ApiGroup) (e : ApiError) : ApiGroup := { g with stage := .failed, error := some e }

/-- Validates the group if that is still to be done. -/
def validate (fuel : Nat) (g : ApiGroup) : ApiGroup :=
  if g.stage = .unvalidated then
    match Validate.configs fuel g.configs with
    | .ok () => { g with stage := .validated }
    | .error e => g.fail e
  else g

/-- One document of each writer, up to the first that fails. -/
def documents (key : ApiKey) (configs : List ApiConfig) :
    List DocumentWriter → RenderState → Except ApiError (List GeneratedDocument) × RenderState
  | [], s => (.ok [], s)
  | writer :: writers, s =>
    match s.render writer configs with
    | (.error e, s) => (.error e, s)
    | (.ok content, s) =>
      match documents key configs writers s with
      | (.ok rest, s) => (.ok (writer.document key content :: rest), s)
      | (.error e, s) => (.error e, s)

/-- Emits a validated group: all of its documents or none. -/
def emit (writers : List DocumentWriter) (key : ApiKey) (g : ApiGroup) (s : RenderState) :
    ApiGroup × List GeneratedDocument × RenderState :=
  if g.stage = .validated then
    match documents key g.configs writers s with
    | (.ok docs, s) => ({ g with stage := .emitted }, docs, s)
    | (.error e, s) => (g.fail e, [], s)
  else (g, [], s)

end ApiGroup

structure GenerationRun where
  /-- The keys have no root. -/
  groups : OrderedMap ApiKey ApiGroup := .empty

namespace GenerationRun

def add (run : GenerationRun) (a : ApiConfig) : GenerationRun :=
  let key := a.key.withoutRoot
  let group := (run.groups.get? key).getD {}
  ⟨run.groups.insert key { group with configs := group.configs ++ [a] }⟩

/-- Groups the configurations by API, in the order of first use. -/
def ofConfigs (configs : List ApiConfig) : GenerationRun := configs.foldl add {}

def stage? (run : GenerationRun) (key : ApiKey) : Option Stage :=
  (run.groups.get? key).map (·.stage)

/-- The groups that failed, with their errors. -/
def failures (run : GenerationRun) : List (ApiKey × ApiError) :=
  run.groups.entries.filterMap fun (key, g) => g.error.map (key, ·)

/-- Moves the group at `key` on by hand. -/
def transition (run : GenerationRun) (key : ApiKey) (target : Stage) :
    Except ApiError GenerationRun :=
  match run.groups.get? key with
  | none => .error (.invalidTransition key.text none target)
  | some g =>
    if g.stage.canMoveTo target then .ok ⟨run.groups.insert key { g with stage := target }⟩
    else .error (.invalidTransition key.text (some g.stage) target)

def validate (fuel : Nat) (run : GenerationRun) : GenerationRun :=
  ⟨run.groups.mapValues fun _ g => g.validate fuel⟩

/-- Emits the validated groups in order; every group ends where `ApiGroup.emit` leaves it. -/
def emitWith (writers : List DocumentWriter) (run : GenerationRun) (s : RenderState) :
    GenerationRun × List GeneratedDocument × RenderState :=
  run.groups.entries.foldl (fun (run, docs, s) (key, g) =>
    let (g, new, s) := g.emit writers key s
    (⟨run.groups.insert key g⟩, docs ++ new, s)) (run, [], s)

/-- Validates and then emits. -/
def generateWith (fuel : Nat) (writers : List DocumentWriter) (run : GenerationRun)
    (s : RenderState) : GenerationRun × List GeneratedDocument × RenderState :=
  (run.validate fuel).emitWith writers s

def emit (fuel : Nat) (formats : List DocumentFormat) (run : GenerationRun) (s : RenderState) :
    GenerationRun × List GeneratedDocument × RenderState :=
  run.emitWith (formats.map (·.writer fuel)) s

def generate (fuel : Nat) (formats : List DocumentFormat) (run : GenerationRun) (s : RenderState) :
    GenerationRun × List GeneratedDocument × RenderState :=
  (run.validate fuel).emit fuel formats s

end GenerationRun

end ServiceApi
