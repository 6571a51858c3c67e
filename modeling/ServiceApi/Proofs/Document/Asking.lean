import ServiceApi.Document.Format
import ServiceApi.Proofs.Document.Definitions

/-! # What documents ask for

A document asks the repository for one body after the other, then reads the definitions of its API,
and is written from that. It does nothing else to the repository, in any format. -/

namespace ServiceApi

open Compile Repository

variable {Q : ApiConfig → Prop} {fuel : Nat}

/-- Work that calls for schemas with configurations of `Q`, and uses the repository for nothing
else. -/
inductive Asks (Q : ApiConfig → Prop) : {α : Type} → (Nat → Compile α) → Prop
  | ofExcept {α : Type} (r : Except ApiError α) : Asks Q fun _ => Compile.ofExcept r
  | getOrAdd (type : TypeExpr) {config : ApiConfig} :
      Q config → Asks Q fun fuel => getOrAdd fuel type config
  | bind {α β : Type} {m : Nat → Compile α} {f : Nat → α → Compile β} :
      Asks Q m → (∀ a, Asks Q fun fuel => f fuel a) → Asks Q fun fuel => m fuel >>= f fuel

namespace Asks

variable {α β : Type} {m : Nat → Compile α}

theorem pure (a : α) : Asks Q fun _ => pure a := .ofExcept (.ok a)

theorem mapM {f : Nat → α → Compile β} : ∀ {as : List α}, (∀ a ∈ as, Asks Q fun fuel => f fuel a) →
    Asks Q fun fuel => as.mapM (f fuel)
  | [], _ => pure []
  | a :: as, hf => by
    simp only [List.mapM_cons]
    exact .bind (hf a List.mem_cons_self) fun b =>
      .bind (mapM fun a' ha' => hf a' (List.mem_cons_of_mem a ha')) fun bs => pure (b :: bs)

/-- What every call keeps the whole work keeps. -/
theorem keeps (h : Asks Q m) {I : Repository → Prop}
    (hI : ∀ config, Q config → ∀ fuel type, Keeps I (Repository.getOrAdd fuel type config))
    (fuel : Nat) :
    Keeps I (m fuel) := by
  induction h with
  | ofExcept r => exact Keeps.ofExcept r
  | getOrAdd type hq => exact hI _ hq fuel type
  | bind _ _ ih ih' => exact ih.bind ih'

/-- What two repositories have alike for every call they have alike for the whole work. -/
theorem mirrors (h : Asks Q m) {A : Repository → Repository → Prop}
    (hA : ∀ config, Q config → ∀ type,
      Mirrors A (fun _ => True) fun fuel => Repository.getOrAdd fuel type config) :
    Mirrors A (fun _ => True) m := by
  induction h with
  | ofExcept r => exact .ofExcept r
  | getOrAdd type hq => exact hA _ hq type
  | bind _ _ ih ih' => exact ih.bind ih'

end Asks

/-! ## Methods -/

theorem asks_requestBody {m : MethodScope} (h : Q m.api) :
    Asks Q fun fuel => m.requestBody fuel := by
  refine .bind (.ofExcept _) fun p => ?_
  cases p with
  | none => exact .pure _
  | some p => exact .bind (.ofExcept _) fun type => .bind (.getOrAdd type h) fun _ => .pure _

theorem asks_responseSchema {m : MethodScope} (h : Q m.api) :
    Asks Q fun fuel => m.responseSchema fuel := by
  unfold MethodScope.responseSchema
  cases m.method.returnType? with
  | none => exact .pure _
  | some type => exact .bind (.getOrAdd type h) fun _ => .pure _

theorem asks_written {β : Type} {m : MethodScope} (h : Q m.api)
    (write : List SentParameter → Option RequestBody → Option Schema → β) :
    Asks Q fun fuel => do
      let parameters ← Compile.ofExcept m.sentParameters
      let body ← m.requestBody fuel
      let response ← m.responseSchema fuel
      return write parameters body response :=
  .bind (.ofExcept _) fun _ => .bind (asks_requestBody h) fun _ =>
    .bind (asks_responseSchema h) fun _ => .pure _

theorem mem_activeMethods {configs : List ApiConfig} {m : MethodScope}
    (h : m ∈ activeMethods configs) : m.api ∈ configs := by
  obtain ⟨hm, -⟩ := List.mem_filter.mp h
  obtain ⟨a, ha, hm⟩ := List.mem_flatMap.mp hm
  obtain ⟨method, -, rfl⟩ := List.mem_map.mp hm
  exact ha

/-- What is written for every active method of some configurations. -/
theorem asks_methods {β : Type} {f : Nat → MethodScope → Compile β} (configs : List ApiConfig)
    (hf : ∀ m : MethodScope, m.api ∈ configs → Asks (· ∈ configs) fun fuel => f fuel m) :
    Asks (· ∈ configs) fun fuel => (activeMethods configs).mapM fun m => do
      return (m, ← f fuel m) :=
  .mapM fun m hm => .bind (hf m (mem_activeMethods hm)) fun _ => .pure _

/-! ## Documents -/

/-- Work that asks first, then reads the definitions of an API, and leaves the repository alone from
there. -/
inductive Defines (Q : ApiConfig → Prop) (d : Dialect) (key : ApiKey) :
    {α : Type} → (Nat → Compile α) → Prop
  | define {α : Type} {finish : Json → Compile α} : (∀ schemas, ∃ r, finish schemas = .ofExcept r) →
      Defines Q d key fun _ => do
        let schemas ← Compile.ofExcept ((← get).definitionsJson d key)
        finish schemas
  | ask {α β : Type} {m : Nat → Compile α} {f : Nat → α → Compile β} :
      Asks Q m → (∀ a, Defines Q d key fun fuel => f fuel a) →
      Defines Q d key fun fuel => m fuel >>= f fuel
  | write {α β : Type} {m : Nat → Compile α} (f : α → β) :
      Defines Q d key m → Defines Q d key fun fuel => do return f (← m fuel)

theorem Defines.keeps {α : Type} {d : Dialect} {key : ApiKey} {m : Nat → Compile α}
    (h : Defines Q d key m) {I : Repository → Prop}
    (hI : ∀ config, Q config → ∀ fuel type, Keeps I (getOrAdd fuel type config)) (fuel : Nat) :
    Keeps I (m fuel) := by
  induction h with
  | define hfinish =>
    refine Keeps.get.bind fun repo => (Keeps.ofExcept _).bind fun schemas => ?_
    obtain ⟨r, hr⟩ := hfinish schemas
    rw [hr]
    exact .ofExcept r
  | ask hm _ ih => exact (hm.keeps hI fuel).bind ih
  | write f _ ih => exact ih.bind fun _ => .pure _

theorem Defines.mirrors {α : Type} {d : Dialect} {key : ApiKey} {m : Nat → Compile α}
    (h : Defines Q d key m) {A : Repository → Repository → Prop} {C : Repository → Prop}
    (hcall : ∀ config, Q config → ∀ type,
      Mirrors A (fun _ => True) fun fuel => getOrAdd fuel type config)
    (hread : ∀ s t, A s t → C s → s.definitionsJson d key = t.definitionsJson d key) :
    Mirrors A C m := by
  induction h with
  | @define α finish hfinish =>
    -- Reading leaves every repository as it is, and what is read decides.
    have hfinish (schemas : Except ApiError Json) (s : Repository) :
        ∃ r, (Compile.ofExcept schemas >>= finish).result s = (r, s) ∧
          ∀ t, (Compile.ofExcept schemas >>= finish).result t = (r, t) := by
      cases schemas with
      | error e => exact ⟨.error e, rfl, fun t => rfl⟩
      | ok schemas =>
        obtain ⟨r, hr⟩ := hfinish schemas
        simp only [bind_of_ok (result_ofExcept _ _), hr]
        exact ⟨r, rfl, fun t => rfl⟩
    refine ⟨fun s fuel r u h _ hC => ?_, fun s t hA fuel r v h _ => ?_⟩
    · refine ⟨0, fun fuel' _ t hA => ?_⟩
      rw [bind_of_ok (result_get _)] at h ⊢
      obtain ⟨r', hs, ht⟩ := hfinish (s.definitionsJson d key) s
      cases hs.symm.trans h
      rw [← hread s t hA hC]
      exact ⟨t, ht t, hA⟩
    · rw [bind_of_ok (result_get _)] at h
      simp only [bind_of_ok (result_get _)]
      obtain ⟨r', hs, -⟩ := hfinish (s.definitionsJson d key) s
      obtain ⟨r'', ht, hall⟩ := hfinish (t.definitionsJson d key) t
      cases ht.symm.trans h
      refine ⟨s, hA, ⟨0, fun _ _ => by rw [hs]⟩, fun hC => ⟨0, fun _ _ => ?_⟩⟩
      rw [hread s t hA hC]
      exact hall s
  | ask hm _ ih => exact (hm.mirrors hcall).bind ih
  | write f _ ih => exact ih.map f

namespace DocumentFormat

def dialect : DocumentFormat → Dialect
  | legacy | discovery => .discovery
  | openApi => .openApi

theorem document_defines (format : DocumentFormat) (a : ApiConfig) (configs : List ApiConfig) :
    Defines (· ∈ configs) format.dialect a.key fun fuel => format.document fuel a configs := by
  have hmethods {β : Type} {f : Nat → MethodScope → Compile β} := asks_methods (f := f) configs
  cases format with
  | legacy =>
    exact .ask (hmethods fun m hm => asks_written hm _) fun _ => .define fun _ => ⟨.ok _, rfl⟩
  | discovery =>
    exact .write _ <| .ask (.ofExcept _) fun _ => .ask (hmethods fun m hm => asks_written hm _)
      fun _ => .define fun _ => ⟨.ok _, rfl⟩
  | openApi =>
    refine .ask (hmethods fun m hm => asks_written hm _) fun _ => .define fun _ => ?_
    cases hserver : OpenApi.serverUrl a with
    | error e => exact ⟨.error e, rfl⟩
    | ok server => exact ⟨.ok _, rfl⟩

theorem render_defines (format : DocumentFormat) (a : ApiConfig) (rest : List ApiConfig) :
    Defines (· ∈ a :: rest) format.dialect a.key fun fuel => format.render fuel (a :: rest) :=
  .write Json.pretty (format.document_defines a (a :: rest))

/-- What every call keeps rendering keeps. -/
theorem keeps_render (format : DocumentFormat) {configs : List ApiConfig} {I : Repository → Prop}
    (hI : ∀ config ∈ configs, ∀ fuel type, Keeps I (getOrAdd fuel type config)) (fuel : Nat) :
    Keeps I (format.render fuel configs) := by
  cases configs with
  | nil => exact .throw _
  | cons a rest => exact (format.render_defines a rest).keeps hI fuel

theorem mirrors_again (format : DocumentFormat) (configs : List ApiConfig) :
    Mirrors Twice (fun _ => True) fun fuel => format.render fuel configs := by
  cases configs with
  | nil => exact .ofExcept (.error _)
  | cons a rest =>
    exact (format.render_defines a rest).mirrors
      (fun config _ type => mirrors_getOrAdd_again type config) fun s t hA _ => by rw [hA.2]

end DocumentFormat

end ServiceApi
