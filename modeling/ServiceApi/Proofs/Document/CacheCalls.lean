import Mathlib.Algebra.GroupWithZero.Nat
import ServiceApi.Document.Cache
import ServiceApi.Proofs.Lru

/-! # Calls of a cache

A cache is asked for the documents of any groups, by any writers and out of any repositories, and is
cleared in between. Whatever the calls are, it holds the documents whose keys were used last, and it
counts right: every call that brings configurations is a hit or a miss, and every document that was
rendered is still held, was evicted, or was dropped when the cache was cleared. -/

namespace ServiceApi.DocumentCache

inductive Call where
  | serve (writer : DocumentWriter) (configs : List ApiConfig) (repo : Repository)
  | clear

namespace Call

/-- The key that is asked for: none without configurations. -/
def key? : Call → Option DocumentKey
  | .serve writer configs _ => (DocumentKey.ofSource writer.name writer.extension configs).toOption
  | .clear => none

def isClear : Call → Bool
  | .serve .. => false
  | .clear => true

/-- The configurations of which a document is asked for. -/
def configs : Call → List ApiConfig
  | .serve _ configs _ => configs
  | .clear => []

theorem key?_isSome (call : Call) : call.key?.isSome = !call.configs.isEmpty := by
  cases call with
  | serve _ configs => cases configs <;> rfl
  | clear => rfl

theorem isClear_eq_false {call : Call} {key : DocumentKey} (h : call.key? = some key) :
    call.isClear = false := by
  cases call with
  | serve => rfl
  | clear => cases h

end Call

/-- A call, the cache before and after it, and the document that is handed out. -/
structure Event where
  call : Call
  before : DocumentCache
  document? : Option CachedDocument
  after : DocumentCache

/-- What comes of a call. -/
def respond (cache : DocumentCache) : Call → Event
  | .serve writer configs repo =>
    let served := cache.getOrRenderWith repo writer configs
    { call := .serve writer configs repo, before := cache, document? := served.1.toOption
      after := served.2.1 }
  | .clear => { call := .clear, before := cache, document? := none, after := cache.clear }

/-- What comes of calls one after the other. -/
def events (cache : DocumentCache) : List Call → List Event
  | [] => []
  | call :: calls => cache.respond call :: (cache.respond call).after.events calls

def afterCalls (cache : DocumentCache) (calls : List Call) : DocumentCache :=
  calls.foldl (fun cache call => (cache.respond call).after) cache

namespace Event

def key? (e : Event) : Option DocumentKey := e.call.key?

/-- The call was counted as a hit. -/
def isHit (e : Event) : Bool := e.before.hits < e.after.hits

/-- The document was rendered for the call. -/
def isRendering (e : Event) : Bool := e.document?.isSome && !e.isHit

/-- A key is used when a document is handed out under it. -/
def used? (e : Event) : Option DocumentKey := if e.document?.isSome then e.key? else none

/-- How many documents the cache was cleared of. -/
def dropped (e : Event) : Nat := if e.call.isClear then e.before.size else 0

end Event

/-! ## The past, the latest event first -/

variable {past : List Event} {e : Event}

/-- The keys that were used since the cache was cleared. -/
def usedKeys (past : List Event) : List DocumentKey :=
  (past.takeWhile (!·.call.isClear)).filterMap (·.used?)

/-- The document that was rendered last under a key. -/
def lastRendered? (key : DocumentKey) (past : List Event) : Option CachedDocument :=
  past.findSome? fun e => if e.isRendering ∧ e.key? = some key then e.document? else none

theorem usedKeys_of_clear (h : e.call.isClear = true) (past : List Event) :
    usedKeys (e :: past) = [] := by
  rw [usedKeys, List.takeWhile_cons_of_neg (by simp [h]), List.filterMap_nil]

theorem usedKeys_of_serve (h : e.call.isClear = false) (past : List Event) :
    usedKeys (e :: past) = e.used?.toList ++ usedKeys past := by
  rw [usedKeys, List.takeWhile_cons_of_pos (by simp [h]), List.filterMap_cons]
  cases e.used? <;> rfl

theorem lastRendered?_cons (key : DocumentKey) (e : Event) (past : List Event) :
    lastRendered? key (e :: past) =
      (if e.isRendering ∧ e.key? = some key then e.document? else none).or
        (lastRendered? key past) := by
  rw [lastRendered?, List.findSome?_cons]
  split <;> simp_all [lastRendered?]

/-! ## What can come of a call -/

inductive Outcome : Event → Prop
  | cleared (cache : DocumentCache) : Outcome ⟨.clear, cache, none, cache.clear⟩
  | refused {call : Call} (cache : DocumentCache) : call.key? = none → call.isClear = false →
      Outcome ⟨call, cache, none, cache⟩
  | found {call : Call} {cache : DocumentCache} {key : DocumentKey} {document : CachedDocument}
      {documents : Lru DocumentKey CachedDocument} : call.key? = some key →
      cache.documents.use? key = some (document, documents) →
      Outcome ⟨call, cache, some document, { cache with documents, hits := cache.hits + 1 }⟩
  | failed {call : Call} {cache : DocumentCache} {key : DocumentKey} : call.key? = some key →
      key ∉ cache.documents.keys →
      Outcome ⟨call, cache, none, { cache with misses := cache.misses + 1 }⟩
  | rendered {call : Call} {cache : DocumentCache} {key : DocumentKey} (document : CachedDocument) :
      call.key? = some key → key ∉ cache.documents.keys →
      Outcome ⟨call, cache, some document,
        { cache with misses := cache.misses + 1 }.store key document⟩

theorem outcome_respond (cache : DocumentCache) (call : Call) : Outcome (cache.respond call) := by
  cases call with
  | clear => exact .cleared cache
  | serve writer configs repo =>
    cases hkey : DocumentKey.ofSource writer.name writer.extension configs with
    | error e =>
      have hnone : (Call.serve writer configs repo).key? = none := by rw [Call.key?, hkey]; rfl
      simp only [respond, getOrRenderWith, hkey]
      exact .refused cache hnone rfl
    | ok key =>
      have hsome : (Call.serve writer configs repo).key? = some key := by rw [Call.key?, hkey]; rfl
      cases huse : cache.documents.use? key with
      | some found =>
        obtain ⟨document, documents⟩ := found
        simp only [respond, getOrRenderWith, hkey, huse]
        exact .found hsome huse
      | none =>
        have hnew := Lru.use?_eq_none_iff.mp huse
        rcases hrender : (writer.render configs).run.run repo with ⟨_ | text, repo'⟩
        · simp only [respond, getOrRenderWith, hkey, huse, hrender]
          exact .failed hsome hnew
        · simp only [respond, getOrRenderWith, hkey, huse, hrender]
          exact .rendered _ hsome hnew

theorem respond_before (cache : DocumentCache) (call : Call) :
    (cache.respond call).before = cache := by
  cases call <;> rfl

theorem respond_call (cache : DocumentCache) (call : Call) : (cache.respond call).call = call := by
  cases call <;> rfl

theorem map_call_events : ∀ (calls : List Call) (cache : DocumentCache),
    (cache.events calls).map (·.call) = calls
  | [], _ => rfl
  | call :: calls, cache => by rw [events, List.map_cons, respond_call, map_call_events calls]

theorem Outcome.capacity (h : Outcome e) : e.after.capacity = e.before.capacity := by
  cases h with
  | found _ huse => exact (Lru.use?_eq_some huse).2.1
  | _ => rfl

/-- A hit is a call whose key is there. -/
theorem Outcome.isHit_iff (h : Outcome e) :
    e.isHit = true ↔ ∃ key, e.key? = some key ∧ key ∈ e.before.documents.keys := by
  cases h with
  | cleared cache => simp [Event.isHit, Event.key?, Call.key?, clear]
  | refused cache hnone => simp [Event.isHit, Event.key?, hnone]
  | found hkey huse =>
    refine iff_of_true (by simp [Event.isHit]) ⟨_, hkey, ?_⟩
    exact List.mem_map_of_mem (Lru.use?_eq_some huse).1
  | failed hkey hnew => simp [Event.isHit, Event.key?, hkey, hnew]
  | rendered document hkey hnew => simp [Event.isHit, Event.key?, hkey, hnew, store]

/-- A hit hands out what is there. -/
theorem Outcome.document_of_isHit (h : Outcome e) (hhit : e.isHit = true) :
    ∃ key document, e.key? = some key ∧ (key, document) ∈ e.before.documents.entries ∧
      e.document? = some document := by
  cases h with
  | found hkey huse => exact ⟨_, _, hkey, (Lru.use?_eq_some huse).1, rfl⟩
  | _ => simp [Event.isHit, clear, store] at hhit

/-- Without a document to hand out nothing moves, unless the cache is cleared. -/
theorem Outcome.documents_of_none (h : Outcome e) (hserve : e.call.isClear = false)
    (hnone : e.document? = none) : e.after.documents = e.before.documents := by
  cases h with
  | cleared => cases hserve
  | refused | failed => rfl
  | found | rendered => cases hnone

/-- What is asked for is counted once. -/
theorem Outcome.asked (h : Outcome e) : e.after.hits + e.after.misses =
    (if !e.call.configs.isEmpty then 1 else 0) + (e.before.hits + e.before.misses) := by
  cases h with
  | cleared => exact (Nat.zero_add _).symm
  | refused _ hnone =>
    rw [← Call.key?_isSome, hnone]
    exact (Nat.zero_add _).symm
  | found hkey | failed hkey | rendered _ hkey =>
    rw [← Call.key?_isSome, hkey]
    simp only [Option.isSome_some, if_true, store]
    omega

/-- A document that was rendered takes a place of its own or that of one that is evicted. -/
theorem Outcome.made (h : Outcome e) : e.after.size + e.after.evictions + e.dropped =
    (if e.isRendering then 1 else 0) + (e.before.size + e.before.evictions) := by
  cases h with
  | cleared cache =>
    simp [clear, size, Lru.clear, Lru.size, Event.dropped, Event.isRendering, Call.isClear]
    omega
  | refused cache _ hserve => simp [Event.dropped, Event.isRendering, hserve]
  | found hkey huse =>
    have hsize := Lru.size_use? huse
    simp [size, Event.dropped, Event.isRendering, Event.isHit, Call.isClear_eq_false hkey, hsize]
  | failed hkey hnew => simp [size, Event.dropped, Event.isRendering, Call.isClear_eq_false hkey]
  | rendered document hkey hnew =>
    have hsize := Lru.size_insert (v := document) hnew
    simp [size, store, Event.dropped, Event.isRendering, Event.isHit, Call.isClear_eq_false hkey]
    omega

/-! ## What holds after any calls -/

/-- What a cache holds and has counted follows from its past. -/
structure Exact (past : List Event) (cache : DocumentCache) : Prop where
  holds : cache.documents.Holds (usedKeys past)
  rendered : ∀ entry ∈ cache.documents.entries, lastRendered? entry.1 past = some entry.2
  asked : cache.hits + cache.misses = past.countP (!·.call.configs.isEmpty)
  made : cache.size + cache.evictions + (past.map Event.dropped).sum = past.countP (·.isRendering)

theorem exact_empty (capacity : Nat) (h : 0 < capacity) : Exact [] (.empty capacity h) :=
  ⟨Lru.holds_empty capacity h, fun _ hmem => (List.not_mem_nil hmem).elim, rfl, rfl⟩

theorem Outcome.holds (h : Outcome e) (hpast : e.before.documents.Holds (usedKeys past)) :
    e.after.documents.Holds (usedKeys (e :: past)) := by
  cases h with
  | cleared cache =>
    rw [usedKeys_of_clear rfl]
    exact Lru.holds_clear _
  | refused cache _ hserve =>
    rw [usedKeys_of_serve hserve]
    exact hpast
  | found hkey huse =>
    rw [usedKeys_of_serve (Call.isClear_eq_false hkey)]
    simp only [Event.used?, Event.key?, hkey]
    exact Lru.Holds.use? hpast huse
  | failed hkey =>
    rw [usedKeys_of_serve (Call.isClear_eq_false hkey)]
    exact hpast
  | rendered document hkey =>
    rw [usedKeys_of_serve (Call.isClear_eq_false hkey)]
    simp only [Event.used?, Event.key?, hkey]
    exact Lru.Holds.insert hpast _ document

/-- A call that renders nothing leaves what was rendered last. -/
theorem lastRendered?_of_not (h : e.isRendering = false) (key : DocumentKey) (past : List Event) :
    lastRendered? key (e :: past) = lastRendered? key past := by
  rw [lastRendered?_cons, if_neg (by simp [h]), Option.none_or]

theorem Outcome.lastRendered (h : Outcome e)
    (hpast : ∀ entry ∈ e.before.documents.entries, lastRendered? entry.1 past = some entry.2) :
    ∀ entry ∈ e.after.documents.entries, lastRendered? entry.1 (e :: past) = some entry.2 := by
  intro entry hmem
  cases h with
  | cleared => cases hmem
  | refused | failed =>
    rw [lastRendered?_of_not rfl]
    exact hpast entry hmem
  | found hkey huse =>
    rw [lastRendered?_of_not (by simp [Event.isRendering, Event.isHit])]
    exact hpast entry ((Lru.use?_entries huse).2 entry hmem)
  | @rendered call cache key document hkey hnew =>
    rw [lastRendered?_cons]
    rcases List.mem_cons.mp hmem with rfl | hold
    · simp [Event.isRendering, Event.isHit, Event.key?, hkey, store]
    · have hkept := List.mem_filter.mp (List.mem_of_mem_take hold)
      have hne : key ≠ entry.1 := Ne.symm (of_decide_eq_true hkept.2)
      rw [if_neg (by simp [Event.key?, hkey, hne]), Option.none_or]
      exact hpast entry hkept.1

theorem Exact.step (h : Exact past e.before) (he : Outcome e) : Exact (e :: past) e.after := by
  refine ⟨he.holds h.holds, he.lastRendered h.rendered, ?_, ?_⟩
  · rw [he.asked, h.asked, List.countP_cons, Nat.add_comm]
  · rw [List.map_cons, List.sum_cons, ← Nat.add_assoc, he.made, Nat.add_assoc,
      h.made, List.countP_cons, Nat.add_comm]

theorem Exact.run : ∀ (calls : List Call) {past : List Event} {cache : DocumentCache},
    Exact past cache → Exact ((cache.events calls).reverse ++ past) (cache.afterCalls calls)
  | [], _, _, h => h
  | call :: calls, past, cache, h => by
    have hstep : Exact (cache.respond call :: past) (cache.respond call).after :=
      Exact.step ((respond_before cache call).symm ▸ h) (outcome_respond cache call)
    rw [events, List.reverse_cons, List.append_assoc]
    exact Exact.run calls hstep

theorem capacity_afterCalls : ∀ (calls : List Call) (cache : DocumentCache),
    (cache.afterCalls calls).capacity = cache.capacity
  | [], _ => rfl
  | call :: calls, cache => by
    have hstep := (outcome_respond cache call).capacity
    rw [respond_before] at hstep
    exact (capacity_afterCalls calls _).trans hstep

/-- A new cache, after whatever calls, finds a document just if its key is one of those that were
used last, as many as it has places for, and hands out what was rendered last under this key. To
fail changes nothing that it holds. It never holds more than it has places for, and all that it was
asked for and all that was rendered is accounted for. -/
theorem what_was_used_last_is_found (capacity : Nat) (hpos : 0 < capacity)
    (calls : List Call) (call : Call) :
    let past := ((DocumentCache.empty capacity hpos).events calls).reverse
    let cache := (DocumentCache.empty capacity hpos).afterCalls calls
    let e := cache.respond call
    (e.isHit = true ↔ ∃ key, call.key? = some key ∧ key ∈ (usedKeys past).eraseDups.take capacity) ∧
      (e.isHit = true → ∃ key document, call.key? = some key ∧
        lastRendered? key past = some document ∧ e.document? = some document) ∧
      (call.isClear = false → e.document? = none → e.after.documents = cache.documents) ∧
      cache.size ≤ capacity ∧
      cache.hits + cache.misses = calls.countP (!·.configs.isEmpty) ∧
      cache.size + cache.evictions + (past.map Event.dropped).sum =
        past.countP (·.isRendering) := by
  intro past cache e
  have hexact : Exact past cache := by
    have hrun := Exact.run calls (exact_empty capacity hpos)
    rwa [List.append_nil] at hrun
  have houtcome : Outcome e := outcome_respond cache call
  have hbefore : e.before = cache := respond_before cache call
  have hcall : e.call = call := respond_call cache call
  have hcapacity : cache.documents.capacity = capacity := capacity_afterCalls calls _
  refine ⟨?_, fun hhit => ?_, fun hserve hnone => ?_, ?_, ?_, hexact.made⟩
  · have hholds : cache.documents.keys = (usedKeys past).eraseDups.take capacity :=
      hcapacity ▸ hexact.holds
    rw [houtcome.isHit_iff, Event.key?, hcall, hbefore, hholds]
  · obtain ⟨key, document, hkey, hmem, hdocument⟩ := houtcome.document_of_isHit hhit
    rw [Event.key?, hcall] at hkey
    rw [hbefore] at hmem
    exact ⟨key, document, hkey, hexact.rendered _ hmem, hdocument⟩
  · rw [houtcome.documents_of_none (by rwa [hcall]) hnone, hbefore]
  · rw [← hcapacity]
    exact cache.documents.size_le
  · have hcalls : past.map (·.call) = calls.reverse := by
      rw [List.map_reverse, map_call_events]
    rw [hexact.asked, ← List.countP_reverse (l := calls), ← hcalls, List.countP_map]
    rfl

/-- Writes what the only service class is called. -/
def nameWriter : DocumentWriter where
  name := "name"
  extension := "txt"
  contentType := "text/plain"
  render
    | [a] => return a.classConfig.serviceClass
    | _ => throw (.render "name" "many" .noConfigs)

theorem what_was_used_last_is_found_names :
    let config (name : String) : ApiConfig := { ApiConfig.default ⟨"main", {}⟩ {} name with name }
    let first : Call := .serve nameWriter [config "first"] {}
    let second : Call := .serve nameWriter [config "second"] {}
    let both : Call := .serve nameWriter [config "first", config "second"] {}
    let calls : List Call := [first, second, both, .clear, first, second]
    let past := ((DocumentCache.empty 1).events calls).reverse
    let cache := (DocumentCache.empty 1).afterCalls calls
    0 < 1 ∧ (cache.hits, cache.misses, cache.evictions, cache.size) = (0, 5, 2, 1) ∧
      (cache.respond second).isHit = true ∧
      (∃ key, second.key? = some key ∧ key ∈ (usedKeys past).eraseDups.take 1) ∧
      (∃ document, (cache.respond second).document? = some document) ∧
      (cache.respond both).after.documents = cache.documents ∧
      cache.size + cache.evictions + (past.map Event.dropped).sum = 4 := by
  intro config first second both calls past cache
  have hvalues : (cache.hits, cache.misses, cache.evictions, cache.size) = (0, 5, 2, 1) ∧
      (cache.respond second).isHit = true ∧ (cache.respond both).document? = none ∧
      past.countP (·.isRendering) = 4 := by
    decide +kernel
  obtain ⟨hcounts, hhit, hfailed, hrendered⟩ := hvalues
  obtain ⟨hused, hfound, -, -, -, hmade⟩ := what_was_used_last_is_found 1 (by decide) calls second
  obtain ⟨-, -, hkept, -⟩ := what_was_used_last_is_found 1 (by decide) calls both
  obtain ⟨_, document, -, -, hdocument⟩ := hfound hhit
  exact ⟨by decide, hcounts, hhit, hused.mp hhit, ⟨document, hdocument⟩, hkept rfl hfailed,
    hmade.trans hrendered⟩

end ServiceApi.DocumentCache
