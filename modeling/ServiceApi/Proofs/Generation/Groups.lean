import Mathlib.Data.List.Induction
import ServiceApi.Proofs.Compile
import ServiceApi.Proofs.Generation.Emission

/-! # The groups of a run

A run has one group for every API among its configurations, with the configurations of that API in
their order. Emitting goes through the groups one after the other: what becomes of one is decided by
its own configurations and by the repository that the groups before it leave. -/

namespace ServiceApi

open Compile

variable {fuel : Nat} {formats : List DocumentFormat} {key : ApiKey} {configs : List ApiConfig}

/-! ## What becomes of a group -/

namespace ApiGroup

/-- The document that a text makes. -/
def documentOf (key : ApiKey) (format : DocumentFormat) (content : String) : GeneratedDocument where
  key
  fileName := key.fileStem ++ "." ++ format.extension
  contentType := format.contentType
  content

/-- One document of each format, without a cache. -/
def writeAll (key : ApiKey) (configs : List ApiConfig)
    (formats : List DocumentFormat) (fuel : Nat) : Compile (List GeneratedDocument) :=
  formats.mapM fun format => do return documentOf key format (← format.render fuel configs)

theorem writeAll_cons (key : ApiKey) (configs : List ApiConfig) (format : DocumentFormat)
    (formats : List DocumentFormat) (fuel : Nat) :
    writeAll key configs (format :: formats) fuel = (do
      let content ← format.render fuel configs
      let rest ← writeAll key configs formats fuel
      return documentOf key format content :: rest) := by
  simp only [writeAll, List.mapM_cons, bind_assoc, pure_bind]

theorem documents_eq_writeAll (fuel : Nat) (key : ApiKey) (configs : List ApiConfig) :
    ∀ (formats : List DocumentFormat) (repo : Repository),
      documents key configs (formats.map (·.writer fuel)) { repository := repo } =
        (((writeAll key configs formats fuel).result repo).1,
          { repository := ((writeAll key configs formats fuel).result repo).2 })
  | [], repo => rfl
  | format :: formats, repo => by
    have hrender : RenderState.render { repository := repo } (format.writer fuel) configs =
        (((format.render fuel configs).result repo).1,
          { repository := ((format.render fuel configs).result repo).2 }) := rfl
    rw [List.map_cons, documents, hrender, writeAll_cons]
    rcases hfirst : (format.render fuel configs).result repo with ⟨e | text, repo'⟩
    · rw [bind_of_error hfirst]
    · rw [bind_of_ok hfirst]
      dsimp only
      rw [documents_eq_writeAll fuel key configs formats repo']
      rcases hrest : (writeAll key configs formats fuel).result repo' with ⟨e | docs, repo''⟩
      · rw [bind_of_error hrest]
      · rw [bind_of_ok hrest, result_pure]
        rfl

/-- How a group of `configs` ends, by what validating and writing come to. -/
def ended (configs : List ApiConfig) (valid : Except ApiError Unit)
    (written : Except ApiError (List GeneratedDocument)) : ApiGroup × List GeneratedDocument :=
  match valid, written with
  | .error e, _ => (fail { configs } e, [])
  | .ok (), .error e => (fail { configs, stage := .validated } e, [])
  | .ok (), .ok docs => ({ configs, stage := .emitted }, docs)

@[simp] theorem ended_error (configs : List ApiConfig) (e : ApiError)
    (written : Except ApiError (List GeneratedDocument)) :
    ended configs (.error e) written = (fail { configs } e, []) := rfl

/-- The repository after a group of `configs`: one that fails to validate does not use it. -/
def left (fuel : Nat) (formats : List DocumentFormat) (key : ApiKey) (configs : List ApiConfig)
    (repo : Repository) : Repository :=
  match Validate.configs fuel configs with
  | .error _ => repo
  | .ok () => ((writeAll key configs formats fuel).result repo).2

theorem emit_validate (fuel : Nat) (formats : List DocumentFormat) (key : ApiKey)
    (configs : List ApiConfig) (repo : Repository) :
    (validate fuel { configs }).emit (formats.map (·.writer fuel)) key { repository := repo } =
      let e := ended configs (Validate.configs fuel configs)
        ((writeAll key configs formats fuel).result repo).1
      (e.1, e.2, { repository := left fuel formats key configs repo }) := by
  rw [validate, if_pos rfl, left]
  cases Validate.configs fuel configs with
  | error e => rfl
  | ok _ =>
    dsimp only
    rw [emit, if_pos rfl]
    dsimp only
    rw [documents_eq_writeAll]
    rcases (writeAll key configs formats fuel).result repo with ⟨e | docs, repo'⟩ <;> rfl

end ApiGroup

/-! ## Which groups there are -/

namespace GenerationRun

open ApiGroup

/-- The configurations of the API at `key`. -/
def configsAt (key : ApiKey) (configs : List ApiConfig) : List ApiConfig :=
  configs.filter (·.key.withoutRoot = key)

theorem configsAt_configsAt (key : ApiKey) (configs : List ApiConfig) :
    configsAt key (configsAt key configs) = configsAt key configs := by
  simp [configsAt]

theorem mem_configsAt {a : ApiConfig} :
    a ∈ configsAt key configs ↔ a ∈ configs ∧ a.key.withoutRoot = key := by
  simp [configsAt]

/-- The group of some configurations, if there are any. -/
def groupOf : List ApiConfig → Option ApiGroup
  | [] => none
  | configs => some { configs }

theorem get?_ofConfigs (configs : List ApiConfig) (key : ApiKey) :
    (ofConfigs configs).groups.get? key = groupOf (configsAt key configs) := by
  induction configs using List.reverseRecOn with
  | nil => rfl
  | append_singleton configs a ih =>
    rw [ofConfigs, List.foldl_append, ← ofConfigs, List.foldl_cons, List.foldl_nil, add,
      OrderedMap.get?_insert, configsAt, List.filter_append, ← configsAt]
    by_cases hkey : key = a.key.withoutRoot
    · subst hkey
      rw [if_pos rfl, ih, List.filter_cons_of_pos (by simp), List.filter_nil]
      cases configsAt a.key.withoutRoot configs <;> rfl
    · rw [if_neg hkey, ih, List.filter_cons_of_neg (by simp [Ne.symm hkey]), List.filter_nil,
        List.append_nil]

theorem mem_keys_ofConfigs :
    key ∈ (ofConfigs configs).groups.keys ↔ configsAt key configs ≠ [] := by
  rw [← OrderedMap.contains_iff_mem, OrderedMap.contains, get?_ofConfigs]
  cases configsAt key configs <;> simp [groupOf]

/-! ## Emitting -/

/-- The groups of the APIs at `keys`, validated. -/
def validated (fuel : Nat) (configs : List ApiConfig) (keys : List ApiKey) :
    List (ApiKey × ApiGroup) :=
  keys.map fun k => (k, ApiGroup.validate fuel { configs := configsAt k configs })

/-- The repository after the groups of the APIs at `keys`. -/
def leftBy (fuel : Nat) (formats : List DocumentFormat) (configs : List ApiConfig)
    (keys : List ApiKey) (repo : Repository) : Repository :=
  keys.foldl (fun r k => left fuel formats k (configsAt k configs) r) repo

theorem entries_validate (fuel : Nat) (configs : List ApiConfig) :
    ((ofConfigs configs).validate fuel).groups.entries =
      validated fuel configs (ofConfigs configs).groups.keys := by
  rw [GenerationRun.validate, OrderedMap.mapValues, validated, OrderedMap.keys, List.map_map]
  refine List.map_congr_left fun e he => ?_
  have hgroup := (OrderedMap.mem_entries_iff.mp he).symm.trans (get?_ofConfigs configs e.1)
  rw [Function.comp_apply]
  cases hconfigs : configsAt e.1 configs with
  | nil => rw [hconfigs] at hgroup; cases hgroup
  | cons a rest =>
    rw [hconfigs] at hgroup
    rw [Option.some.inj hgroup]

theorem leftAfter_validated (fuel : Nat) (formats : List DocumentFormat)
    (configs : List ApiConfig) : ∀ (keys : List ApiKey) (repo : Repository),
      leftAfter (formats.map (·.writer fuel)) (validated fuel configs keys) { repository := repo } =
        { repository := leftBy fuel formats configs keys repo }
  | [], _ => rfl
  | k :: keys, repo => by
    rw [validated, List.map_cons, leftAfter, emitEach_cons, emit_validate]
    exact leftAfter_validated fuel formats configs keys _

/-- What a run makes of the API at `key` on a new repository and without a cache: its group, as it
ends, and its documents. -/
def outcome (fuel : Nat) (formats : List DocumentFormat) (configs : List ApiConfig) (key : ApiKey) :
    Option ApiGroup × List GeneratedDocument :=
  let x := (ofConfigs configs).generate fuel formats {}
  (x.1.groups.get? key, x.2.1.filter (·.key = key))

/-- An API without configurations has no group. -/
theorem outcome_of_none (h : configsAt key configs = []) :
    outcome fuel formats configs key = (none, []) := by
  have hkeys : key ∉ ((ofConfigs configs).validate fuel).groups.keys := by
    rw [OrderedMap.keys, entries_validate, validated, List.map_map, Function.comp_def, List.map_id']
    exact fun hk => mem_keys_ofConfigs.mp hk h
  obtain ⟨hentries, hrest⟩ :=
    emitWith_eq (formats.map (·.writer fuel)) ((ofConfigs configs).validate fuel) {}
  rw [outcome, generate, emit]
  refine Prod.ext (Entries.lookup_eq_none_iff.mpr ?_) ?_
  · rw [hentries, keys_emitEach]
    exact hkeys
  · rw [hrest]
    exact filter_emitEach_eq_nil hkeys

variable {before after : List ApiKey}

theorem not_mem_of_keys (hkeys : (ofConfigs configs).groups.keys = before ++ key :: after) :
    key ∉ before ∧ key ∉ after := by
  have hnodup : (before ++ key :: after).Nodup := hkeys ▸ (ofConfigs configs).groups.nodup
  rw [List.nodup_append, List.nodup_cons] at hnodup
  exact ⟨fun hk => hnodup.2.2 key hk key List.mem_cons_self rfl, hnodup.2.1.1⟩

/-- An API with configurations ends as they do on the repository that the groups before it leave. -/
theorem outcome_of_keys (hkeys : (ofConfigs configs).groups.keys = before ++ key :: after)
    (fuel : Nat) (formats : List DocumentFormat) :
    outcome fuel formats configs key =
      Prod.map some id
        (ended (configsAt key configs) (Validate.configs fuel (configsAt key configs))
        ((writeAll key (configsAt key configs) formats fuel).result
          (leftBy fuel formats configs before {})).1) := by
  have hentries : ((ofConfigs configs).validate fuel).groups.entries =
    validated fuel configs before ++
      (key, ApiGroup.validate fuel { configs := configsAt key configs }) ::
        validated fuel configs after := by
    rw [entries_validate, hkeys, validated, List.map_append, List.map_cons,
      ← validated, ← validated]
  obtain ⟨hgroup, hdocs⟩ := emitWith_of_entries hentries (formats.map (·.writer fuel)) {}
  rw [leftAfter_validated, emit_validate] at hgroup hdocs
  exact Prod.ext hgroup hdocs

/-- Where all configurations are of one API, nothing comes before. -/
theorem outcome_of_only (hall : configsAt key configs = configs) (hne : configs ≠ []) (fuel : Nat)
    (formats : List DocumentFormat) :
    outcome fuel formats configs key =
      Prod.map some id (ended configs (Validate.configs fuel configs)
      ((writeAll key configs formats fuel).result {}).1) := by
  obtain ⟨before, after, hkeys⟩ := List.append_of_mem (mem_keys_ofConfigs.mpr (hall.symm ▸ hne))
  have hbefore : before = [] := by
    refine List.eq_nil_iff_forall_not_mem.mpr fun k hk => ?_
    have hmem : k ∈ (ofConfigs configs).groups.keys := hkeys ▸ List.mem_append_left _ hk
    obtain ⟨b, hb⟩ := List.exists_mem_of_ne_nil _ (mem_keys_ofConfigs.mp hmem)
    obtain ⟨hown, rfl⟩ := mem_configsAt.mp hb
    rw [← hall] at hown
    exact (not_mem_of_keys hkeys).1 ((mem_configsAt.mp hown).2 ▸ hk)
  rw [outcome_of_keys hkeys, hall, hbefore, leftBy, List.foldl_nil]

end GenerationRun

end ServiceApi
