import ServiceApi.Config
import ServiceApi.Schema.Plan

/-!
# The schema repository

Compiles schemas and keeps them by serialization rules and type. A placeholder stands for a schema
while its items or properties are compiled, so a cycle of classes comes to an end. What a call fills
is written down, and taken back if the call fails. The schemas that an API uses are indexed by name,
the first of a name staying.

Classes may have properties of ever larger types, so compiling takes fuel.
-/

namespace ServiceApi

/-- Which schema it is: the two shared ones, or the one built for a key. -/
inductive SchemaId where
  | anyValue
  | anyMap
  | built (key : SchemaKey)
  deriving DecidableEq

/-- A schema in a repository. -/
structure Compiled where
  id : SchemaId
  schema : Schema
  deriving DecidableEq

namespace Compiled

def anyValue : Compiled := ⟨.anyValue, .anyValue⟩

def anyMap : Compiled := ⟨.anyMap, .anyMap⟩

end Compiled

inductive Slot where
  | building
  | done (schema : Compiled)
  deriving DecidableEq

abbrev Slots := OrderedMap SchemaKey Slot

structure Repository where
  slots : Slots := .empty
  /-- The keys that the call under way has filled first. -/
  installed : List SchemaKey := []
  /-- The schemas that an API uses, by name, in the order in which they were reached. The keys have
  no root. -/
  byApi : OrderedMap ApiKey (OrderedMap String Compiled) := .empty

namespace Slots

def lookup (slots : Slots) (key : SchemaKey) : Except ApiError (Option Compiled) :=
  match slots.get? key with
  | none => .ok none
  | some (.done s) => .ok (some s)
  | some .building => .error (.repositoryIntegrity key.type .placeholder)

/-- The schema that a field refers to. -/
def resolve (slots : Slots) (key : SchemaKey) : Except ApiError Compiled := do
  match ← slots.lookup key with
  | some s => return s
  | none => throw (.repositoryIntegrity key.type .dangling)

/-- The schemas that are finished. -/
def finished (slots : Slots) : List Compiled :=
  slots.values.filterMap fun
    | .done s => some s
    | .building => none

end Slots

namespace Repository

/-- Fills a slot, and writes the key down if it was empty. -/
def install (key : SchemaKey) (slot : Slot) (repo : Repository) : Repository :=
  { repo with
    slots := repo.slots.insert key slot
    installed := if repo.slots.contains key then repo.installed else repo.installed ++ [key] }

/-- Empties a slot. -/
def discard (key : SchemaKey) (repo : Repository) : Repository :=
  { repo with slots := repo.slots.erase key }

/-- Begins to write down anew. -/
def forgetInstalled (repo : Repository) : Repository := { repo with installed := [] }

/-- Empties all slots that were written down. -/
def rollBack (repo : Repository) : Repository :=
  (repo.installed.foldl (fun r key => r.discard key) repo).forgetInstalled

/-- The schemas that an API uses, by name. -/
def indexOf (repo : Repository) (api : ApiKey) : OrderedMap String Compiled :=
  (repo.byApi.get? api).getD .empty

/-- Adds a schema to those that an API uses, unless there is one of its name. -/
def keep (api : ApiKey) (s : Compiled) (repo : Repository) : Repository :=
  { repo with byApi := repo.byApi.insert api ((repo.indexOf api).insertNew s.schema.name s) }

end Repository

/-- Work on a repository: what was done before a failure stays. -/
abbrev Compile := ExceptT ApiError (StateM Repository)

def Compile.ofExcept {α : Type} (r : Except ApiError α) : Compile α := ExceptT.mk (pure r)

/-- What `m` answers in `repo`, and the repository that it leaves. -/
def Compile.result {α : Type} (m : Compile α) (repo : Repository) :
    Except ApiError α × Repository := m.run.run repo

/-- Has all needs of a plan met, and then comes to its outcome. -/
def Plan.carryOut {α : Type} (p : Plan α) (meet : SchemaKey → Compile Unit) : Compile α := do
  p.needs.forM meet
  Compile.ofExcept p.outcome

namespace Schema

/-- Does `work` while a placeholder holds the place of `key`; a failure takes it away. -/
def behindPlaceholder {α : Type} (key : SchemaKey) (work : Compile α) : Compile α := do
  modify (·.install key .building)
  try work
  catch e =>
    modify (·.discard key)
    throw e

/-- Builds the schema that is `key`'s own, having `meet` see to those that it needs. -/
def build (c : Catalog) (fuel : Nat) (key : SchemaKey) (meet : SchemaKey → Compile Unit) :
    Compile Schema :=
  match c.fieldType? key.type with
  | none => throw (.unsupportedType "schema repository" key.type .unresolvedOrVoid)
  | some .enum => Compile.ofExcept (ofEnum c key.rules fuel key.type)
  | some .array => behindPlaceholder key ((ofArray c fuel key).carryOut meet)
  | some .object => behindPlaceholder key ((ofBean c fuel key).carryOut meet)
  | some _ => throw (.unsupportedType "schema repository" key.type .scalarResource)

/-- Sees to it that `key` has a schema, or that one is being built further up. -/
def ensure (c : Catalog) (fuel : Nat) (key : SchemaKey) : Compile Unit := do
  if (← get).slots.contains key then return ()
  match fuel with
  | 0 => throw .outOfFuel
  | fuel + 1 =>
    if key.type.isAnyObject then modify (·.install key (.done .anyValue))
    else if c.isMap key.type then modify (·.install key (.done .anyMap))
    else
      let schema ← build c fuel key (ensure c fuel)
      modify (·.install key (.done ⟨.built key, schema⟩))

end Schema

namespace Repository

/-- The schema for `t`, if there is one. -/
def get? (repo : Repository) (t : TypeExpr) (config : ApiConfig) :
    Except ApiError (Option Compiled) := do
  let resolved ← config.catalog.schemaType config.rules t
  if resolved.isAnyObject then return some .anyValue
  if config.catalog.isMap resolved then return some .anyMap
  repo.slots.lookup ⟨config.rules, resolved⟩

def resolve (repo : Repository) (key : SchemaKey) : Except ApiError Compiled :=
  repo.slots.resolve key

/-- Indexes the pending schemas and all that they refer to, each name once. -/
def indexAll (api : ApiKey) : Nat → List String → List Compiled → Compile Unit
  | _, _, [] => return ()
  | 0, _, _ :: _ => throw .outOfFuel
  | fuel + 1, seen, s :: pending =>
    if s.schema.isAny || seen.contains s.schema.name then indexAll api fuel seen pending
    else do
      let targets ← Compile.ofExcept (s.schema.targets.mapM (← get).slots.resolve)
      modify (·.keep api s)
      indexAll api fuel (s.schema.name :: seen) (targets.reverse ++ pending)

/-- As many steps as indexing can take: the start, and each schema refers on once. -/
def indexSteps (slots : Slots) : Nat :=
  1 + (slots.finished.flatMap (·.schema.targets)).length

def addToApi (api : ApiKey) (s : Compiled) : Compile Unit := do
  indexAll api (indexSteps (← get).slots) [] [s]

/-- Compiles the schema of `key`; a failure leaves nothing behind. -/
def compile (c : Catalog) (fuel : Nat) (key : SchemaKey) : Compile Unit := do
  modify forgetInstalled
  try Schema.ensure c fuel key
  catch e =>
    modify rollBack
    throw e
  modify forgetInstalled

/-- The schema for `t`, compiled if it is asked for the first time, which the API of `config` uses
from now on. -/
def getOrAdd (fuel : Nat) (t : TypeExpr) (config : ApiConfig) : Compile Compiled := do
  let resolved ← Compile.ofExcept (config.catalog.schemaType config.rules t)
  let key : SchemaKey := ⟨config.rules, resolved⟩
  compile config.catalog fuel key
  match ← Compile.ofExcept ((← get).slots.lookup key) with
  | none => throw (.repositoryIntegrity t .missing)
  | some s =>
    addToApi config.key.withoutRoot s
    return s

/-- The schemas that an API uses, whatever its root, in the order in which they were reached. -/
def schemasOf (repo : Repository) (key : ApiKey) : List Compiled :=
  (repo.indexOf key.withoutRoot).values

end Repository

end ServiceApi
