import ServiceApi.Catalog.Canonical
import ServiceApi.Document.Format
import ServiceApi.Lru

/-!
# The document cache

Keeps rendered documents under everything that they were rendered from: the format, the API, the
configurations and the catalogs behind them. So a change of any of these renders afresh.
-/

namespace ServiceApi

/-- What a document is kept under. -/
structure DocumentKey where
  extension : String
  api : ApiKey
  /-- The text of the configurations, and of each catalog behind them. -/
  source : String
  deriving DecidableEq

/-- The catalogs of the configurations, each once, in the order of first use. -/
def sharedCatalogs (configs : List ApiConfig) : List SharedCatalog :=
  configs.foldl (fun seen a => if seen.contains a.shared then seen else seen ++ [a.shared]) []

namespace DocumentKey

def sourceText (configs : List ApiConfig) : String :=
  (Json.list ApiConfig.toJson configs).compact
    ++ String.join ((sharedCatalogs configs).map (·.catalog.canonicalText))

/-- By what the writer is called and what its files end in. -/
def ofSource (name extension : String) (configs : List ApiConfig) : Except ApiError DocumentKey :=
  match configs with
  | [] => .error (.render name "<none>" .noConfigs)
  | a :: _ => .ok ⟨extension, a.key, sourceText configs⟩

def ofConfigs (format : DocumentFormat) (configs : List ApiConfig) : Except ApiError DocumentKey :=
  ofSource format.name format.extension configs

end DocumentKey

/-- A document that the cache hands out. -/
structure CachedDocument where
  /-- Which rendering of the cache it comes from. -/
  serial : Nat
  text : String
  deriving DecidableEq

structure DocumentCache where
  documents : Lru DocumentKey CachedDocument
  hits : Nat := 0
  misses : Nat := 0
  evictions : Nat := 0

namespace DocumentCache

def empty (capacity : Nat) (h : 0 < capacity := by omega) : DocumentCache :=
  ⟨.empty capacity h, 0, 0, 0⟩

def size (cache : DocumentCache) : Nat := cache.documents.size

def capacity (cache : DocumentCache) : Nat := cache.documents.capacity

def isEmpty (cache : DocumentCache) : Bool := cache.documents.isEmpty

/-- Forgets all documents; what was counted stays. -/
def clear (cache : DocumentCache) : DocumentCache :=
  { cache with documents := cache.documents.clear }

/-- Keeps a document that was not there. -/
def store (cache : DocumentCache) (key : DocumentKey) (document : CachedDocument) : DocumentCache :=
  { cache with
    documents := cache.documents.insert key document
    evictions := cache.evictions + if cache.documents.isFull then 1 else 0 }

/-- The document for `configs`, rendered if it is not there. A failure to render is counted as a
miss and stores nothing. -/
def getOrRenderWith (cache : DocumentCache) (repo : Repository) (writer : DocumentWriter)
    (configs : List ApiConfig) : Except ApiError CachedDocument × DocumentCache × Repository :=
  match DocumentKey.ofSource writer.name writer.extension configs with
  | .error e => (.error e, cache, repo)
  | .ok key =>
    match cache.documents.use? key with
    | some (document, documents) =>
      (.ok document, { cache with documents, hits := cache.hits + 1 }, repo)
    | none =>
      let cache := { cache with misses := cache.misses + 1 }
      match (writer.render configs).run.run repo with
      | (.error e, repo) => (.error e, cache, repo)
      | (.ok text, repo) =>
        let document := { serial := cache.misses, text }
        (.ok document, cache.store key document, repo)

def getOrRender (cache : DocumentCache) (repo : Repository) (fuel : Nat) (format : DocumentFormat)
    (configs : List ApiConfig) : Except ApiError CachedDocument × DocumentCache × Repository :=
  cache.getOrRenderWith repo (format.writer fuel) configs

end DocumentCache

end ServiceApi
