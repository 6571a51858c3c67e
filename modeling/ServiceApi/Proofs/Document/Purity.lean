import ServiceApi.Proofs.Document.References

/-! # Documents and the past of a repository

What has been compiled with one catalog makes no difference to a document. What has been indexed
does: the definitions are those of the whole index of the API, which never loses a schema. So a
document is the same on two repositories as long as their indexes hold nothing beyond what the
document needs. -/

namespace ServiceApi

open Compile Repository

variable {α : Type} {Q : ApiConfig → Prop} {d : Dialect} {key : ApiKey} {m : Nat → Compile α}
  {D : SerializationRules → Catalog → Prop} {old : OrderedMap String Compiled} {c : Catalog}
  {api : ApiKey} {repo : Repository} {configs : List ApiConfig} {format : DocumentFormat}

/-- All that `a` holds `b` holds too. -/
def OrderedMap.Within {κ ν : Type} [DecidableEq κ] (a b : OrderedMap κ ν) : Prop :=
  ∀ k v, a.get? k = some v → b.get? k = some v

theorem OrderedMap.Within.empty {κ ν : Type} [DecidableEq κ] (b : OrderedMap κ ν) :
    (OrderedMap.empty : OrderedMap κ ν).Within b := fun _ _ h => by cases h

/-! ## Histories over one catalog -/

namespace Repository

theorem Sound.mono {P P' : Catalog → Prop} {s : Repository} (h : Sound P s)
    (hP : ∀ c, P c → P' c) : Sound P' s := by
  refine ⟨fun key x hx => ?_, h.idle, h.indexed⟩
  obtain ⟨a, ha, c, hc, hmade⟩ := h.settled key x hx
  exact ⟨a, ha, c, hP c hc, hmade⟩

/-- Calls and documents that lead from a new repository to this one, all of configurations over one
catalog. Any of them may fail. -/
inductive UsedOver (c : Catalog) : Repository → Prop
  | new : UsedOver c {}
  | getOrAdd {s : Repository} (fuel : Nat) (type : TypeExpr) {config : ApiConfig} : UsedOver c s →
      config.catalog = c → UsedOver c ((getOrAdd fuel type config).result s).2
  | render {s : Repository} (format : DocumentFormat) (fuel : Nat) {configs : List ApiConfig} :
      UsedOver c s → (∀ b ∈ configs, b.catalog = c) →
      UsedOver c ((format.render fuel configs).result s).2

theorem UsedOver.sound {s : Repository} (h : UsedOver c s) : Sound (· = c) s := by
  induction h with
  | new => exact .new _
  | getOrAdd fuel type _ hc ih => exact keeps_sound fuel type hc _ ih
  | render format fuel _ hc ih =>
    exact format.keeps_render (fun b hb fuel type => keeps_sound fuel type (hc b hb)) fuel _ ih

/-- What a call answers comes of the plan for what its type becomes. -/
theorem getOrAdd_planned {config : ApiConfig} {fuel : Nat} {t : TypeExpr}
    {a : Compiled} {u : Repository} (hrepo : UsedOver c repo) (hc : config.catalog = c)
    (h : (getOrAdd fuel t config).result repo = (.ok a, u)) :
    ∃ resolved n, c.schemaType config.rules t = .ok resolved ∧
      (Schema.planOf c n ⟨config.rules, resolved⟩).outcome = .ok a := by
  subst hc
  rcases getOrAdd_cases hrepo.sound rfl fuel t with
    ⟨e, he, -⟩ | ⟨resolved, a', u', hresolved, hu, hg, ha⟩
  · cases he.symm.trans h
  · cases hu.symm.trans h
    obtain ⟨a', heq, c, rfl, n, hplan, -⟩ := (hrepo.sound.adds rfl hg ha).settled _ _ ha.slot
    cases heq
    exact ⟨resolved, n, hresolved, hplan⟩

end Repository

namespace DocumentFormat

/-- With enough fuel, rendering `configs` on `repo` answers `r`. -/
def Renders (format : DocumentFormat) (configs : List ApiConfig) (repo : Repository)
    (r : Except ApiError String) : Prop :=
  r ≠ .error .outOfFuel ∧ ∃ n, ∀ fuel ≥ n, ((format.render fuel configs).result repo).1 = r

theorem Renders.unique {r r' : Except ApiError String} (h : format.Renders configs repo r)
    (h' : format.Renders configs repo r') : r = r' := by
  obtain ⟨-, n, hn⟩ := h
  obtain ⟨-, n', hn'⟩ := h'
  exact (hn (max n n') (by omega)).symm.trans (hn' (max n n') (by omega))

/-- Rendering `configs` on a new repository comes to an end and leaves the schema `s` in the index
of `api`, under `name`. -/
def Indexes (format : DocumentFormat) (configs : List ApiConfig) (api : ApiKey) (name : String)
    (s : Compiled) : Prop :=
  ∃ fuel r u, (format.render fuel configs).result {} = (r, u) ∧ r ≠ .error .outOfFuel ∧
    (u.indexOf api).get? name = some s

variable {a : ApiConfig} {rest : List ApiConfig}

theorem mirrors_render (format : DocumentFormat)
    (hD : ∀ b ∈ a :: rest, D b.rules b.catalog) :
    Mirrors (Alike D a.key.withoutRoot old)
      (fun u => old.Within (u.indexOf a.key.withoutRoot))
        fun fuel => format.render fuel (a :: rest) :=
  (format.render_defines a rest).mirrors (fun b hb type => mirrors_getOrAdd (hD b hb) type)
    fun _ _ hA hold => (hA.definitionsJson_eq hold).symm

/-- With nothing indexed before there is no condition. -/
theorem mirrors_unindexed (format : DocumentFormat)
    (hD : ∀ b ∈ a :: rest, D b.rules b.catalog) :
    Mirrors (Alike D a.key.withoutRoot .empty) (fun _ => True) fun fuel =>
      format.render fuel (a :: rest) :=
  (format.mirrors_render hD).weaken fun _ _ => .empty _

/-- Whatever fuel does for an answer, more fuel does. -/
theorem renders_of_result {r : Except ApiError String} {fuel : Nat}
    (hrepo : Sound (fun _ => True) repo)
    (h : ((format.render fuel configs).result repo).1 = r) (hr : r ≠ .error .outOfFuel) :
    format.Renders configs repo r := by
  obtain ⟨n, hn⟩ := settles (format.mirrors_again configs) hrepo (Prod.ext h rfl) hr
  exact ⟨hr, n, fun fuel' hfuel => congrArg Prod.fst (hn fuel' hfuel)⟩

/-- All renderings with enough fuel leave one index. -/
theorem Indexes.get?_index {name : String} {s : Compiled}
    (h : format.Indexes configs api name s) {w : Repository} {n : Nat}
    (hn : ∀ fuel ≥ n, ((format.render fuel configs).result {}).2 = w) :
    (w.indexOf api).get? name = some s := by
  obtain ⟨fuel, r, u, hu, hr, hs⟩ := h
  obtain ⟨n', hn'⟩ := settles (format.mirrors_again configs) (.new _) hu hr
  rw [← hn (max n n') (by omega), hn' (max n n') (by omega)]
  exact hs

/-- On a repository that holds nothing for the API that the document does not need itself, the
answer is that of a new repository. -/
theorem renders_iff_new (hrepo : UsedOver c repo) (hc : ∀ b ∈ a :: rest, b.catalog = c)
    (hown : ∀ name s, (repo.indexOf a.key.withoutRoot).get? name = some s →
      format.Indexes (a :: rest) a.key.withoutRoot name s) (r : Except ApiError String) :
    format.Renders (a :: rest) repo r ↔ format.Renders (a :: rest) {} r := by
  let D : SerializationRules → Catalog → Prop := fun _ c' => c' = c
  have hmirrors : Mirrors (Alike D a.key.withoutRoot (repo.indexOf a.key.withoutRoot)) _ _ :=
    format.mirrors_render hc
  have hlike : Alike D a.key.withoutRoot (repo.indexOf a.key.withoutRoot) {} repo :=
    .start (hrepo.sound.mono fun _ _ => trivial) fun rules c' hc' =>
      hc' ▸ hrepo.sound.settled.on rules
  constructor
  · rintro ⟨hr, n, hn⟩
    obtain ⟨u, -, ⟨n', hn'⟩, hsame⟩ :=
      hmirrors.back {} repo hlike n r _ (Prod.ext (hn n (Nat.le_refl n)) rfl) hr
    have hwithin : (repo.indexOf a.key.withoutRoot).Within (u.indexOf a.key.withoutRoot) := by
      intro name s hs
      exact (hown name s hs).get?_index hn'
    obtain ⟨n'', hn''⟩ := hsame hwithin
    exact ⟨hr, n'', fun fuel hfuel => by rw [hn'' fuel hfuel]⟩
  · rintro ⟨hr, n, hn⟩
    have hn := hn n (Nat.le_refl n)
    obtain ⟨n', hn'⟩ := settles (format.mirrors_again _) (.new _) (Prod.ext hn rfl) hr
    have hwithin : (repo.indexOf a.key.withoutRoot).Within
        (((format.render n (a :: rest)).result {}).2.indexOf a.key.withoutRoot) :=
      fun name s hs => (hown name s hs).get?_index fun fuel hfuel => by rw [hn' fuel hfuel]
    obtain ⟨n', hn'⟩ := hmirrors.forth {} n r _ (Prod.ext hn rfl) hr hwithin
    refine ⟨hr, n', fun fuel hfuel => ?_⟩
    obtain ⟨v, hv, -⟩ := hn' fuel hfuel repo hlike
    rw [hv]

/-- Two histories over one catalog do not show in a document whose API has nothing in either index
but what the document itself puts there. -/
theorem documents_ignore_history (format : DocumentFormat) {c : Catalog} {configs : List ApiConfig}
    (hc : ∀ b ∈ configs, b.catalog = c) {repo₁ repo₂ : Repository} (h₁ : UsedOver c repo₁)
    (h₂ : UsedOver c repo₂)
    (hown : ∀ repo ∈ [repo₁, repo₂], ∀ a ∈ configs, ∀ name s,
      (repo.indexOf a.key.withoutRoot).get? name = some s →
        format.Indexes configs a.key.withoutRoot name s) (r : Except ApiError String) :
    format.Renders configs repo₁ r ↔ format.Renders configs repo₂ r := by
  cases configs with
  | nil => exact Iff.rfl
  | cons a rest =>
    have hnew {repo : Repository} (h : UsedOver c repo) (hmem : repo ∈ [repo₁, repo₂]) :=
      renders_iff_new h hc (hown repo hmem a List.mem_cons_self) r
    exact (hnew h₁ (by simp)).trans (hnew h₂ (by simp)).symm

/-- A service with one method, over the class that refers to itself. -/
def returning (type : Option TypeExpr) : ApiConfig :=
  let endpoint : EndpointMethod :=
    { serviceClass := "Service", declaringClass := "Service", name := "read", returnType := type }
  selfReferringConfig.setMethods <| OrderedMap.empty.insert endpoint.key
    { endpoint, name := "service.read", path := "read", httpMethod := "GET",
      impliedResource := none }

theorem ne_outOfFuel_of_isOk {r : Except ApiError α} (h : r.isOk = true) :
    r ≠ .error .outOfFuel := by
  rintro rfl
  cases h

theorem documents_ignore_history_node :
    let configs := [returning (some (.raw "Node"))]
    let repo := ((openApi.render 9 configs).result {}).2
    (repo.indexOf (returning none).key.withoutRoot).contains "Node" = true ∧
      ∃ text, legacy.Renders configs {} (.ok text) ∧ legacy.Renders configs repo (.ok text) := by
  intro configs repo
  let u := ((legacy.render 9 configs).result {}).2
  have hok : ((legacy.render 9 configs).result {}).1.isOk = true := by decide +kernel
  have hindex : (repo.indexOf (returning none).key.withoutRoot).entries =
      (u.indexOf (returning none).key.withoutRoot).entries := by decide +kernel
  have hcatalog : ∀ b ∈ configs, b.catalog = selfReferring := by
    intro b hb
    rw [List.mem_singleton.mp hb]
    rfl
  have hown : ∀ repo' ∈ [{}, repo], ∀ a ∈ configs, ∀ name s,
      (repo'.indexOf a.key.withoutRoot).get? name = some s →
        legacy.Indexes configs a.key.withoutRoot name s := by
    intro repo' hrepo' a ha name s hs
    obtain rfl := List.mem_singleton.mp ha
    rcases List.mem_cons.mp hrepo' with rfl | hrepo'
    · cases hs
    · obtain rfl := List.mem_singleton.mp hrepo'
      refine ⟨9, _, u, rfl, ne_outOfFuel_of_isOk hok, ?_⟩
      have hindex' := OrderedMap.ext hindex
      exact hindex' ▸ hs
  refine ⟨by decide +kernel, ?_⟩
  cases hr : ((legacy.render 9 configs).result {}).1 with
  | error e => rw [hr] at hok; cases hok
  | ok text =>
    have hnew : legacy.Renders configs {} (.ok text) := renders_of_result (.new _) hr (by simp)
    exact ⟨text, hnew, (documents_ignore_history legacy hcatalog .new
      (.render openApi 9 .new hcatalog) hown (.ok text)).mp hnew⟩

/-- A document defines what an earlier version of the API used, and this one does not: on a
repository that has rendered the method when it returned the class, the document of the method that
returns nothing is another one than on a new repository. -/
theorem earlier_schemas_stay_in_documents :
    let before := [returning (some (.raw "Node"))]
    let now := [returning none]
    let repo := ((openApi.render 9 before).result {}).2
    (Validate.configs 9 now).isOk = true ∧ UsedOver selfReferring repo ∧
      ¬ ∀ r, openApi.Renders now {} r ↔ openApi.Renders now repo r := by
  intro before now repo
  have hused : UsedOver selfReferring repo := .render openApi 9 .new fun b hb => by
    rw [List.mem_singleton.mp hb]
    rfl
  refine ⟨by decide +kernel, hused, fun hsame => ?_⟩
  have hok : ((openApi.render 9 now).result {}).1.isOk = true := by decide +kernel
  have hok' : ((openApi.render 9 now).result repo).1.isOk = true := by decide +kernel
  have hne : ((openApi.render 9 now).result {}).1.toOption ≠
      ((openApi.render 9 now).result repo).1.toOption := by decide +kernel
  have hnew := (hsame _).mp (renders_of_result (.new _) rfl (ne_outOfFuel_of_isOk hok))
  have hold := renders_of_result (hused.sound.mono fun _ _ => trivial) rfl
    (ne_outOfFuel_of_isOk hok')
  exact hne (congrArg Except.toOption (hnew.unique hold))

end DocumentFormat

end ServiceApi
