import ServiceApi.Proofs.Document.Purity
import ServiceApi.Proofs.Generation.Groups
import ServiceApi.Proofs.Generation.Validation

/-! # APIs in one batch

All groups of a run share a repository, which keeps schemas by serialization rules and type,
whatever the catalog. So a group finds what others have compiled, and this is what it would have
compiled itself only if they share the catalog, or the rules differ. Under that condition a group
ends as it would end alone.

A failure is a group's own affair, but that a group never ends is not: the run does not end then,
and makes nothing of the others either. -/

namespace ServiceApi

open Compile Repository

variable {D : SerializationRules → Catalog → Prop} {api key : ApiKey} {repo s : Repository}
  {config : ApiConfig} {configs : List ApiConfig} {formats : List DocumentFormat} {fuel : Nat}

namespace Repository

/-- Nothing is indexed for `api`, and what is built by `D` finds only what it would build itself. -/
structure Untouched (D : SerializationRules → Catalog → Prop) (api : ApiKey) (repo : Repository) :
    Prop where
  sound : Sound (fun _ => True) repo
  settled : ∀ rules c, D rules c → SettledOn rules c repo.slots
  index : repo.indexOf api = .empty

theorem Untouched.new (D : SerializationRules → Catalog → Prop) (api : ApiKey) :
    Untouched D api {} :=
  ⟨.new _, fun _ _ _ => .of_unused fun _ _ => rfl, rfl⟩

theorem Untouched.alike (h : Untouched D api repo) : Alike D api .empty {} repo :=
  h.index ▸ Alike.start h.sound h.settled

/-- A call for another API, with the same catalog or by other rules, leaves it so. -/
theorem keeps_untouched (hapi : config.key.withoutRoot ≠ api)
    (hD : ∀ c, D config.rules c → c = config.catalog) (fuel : Nat) (type : TypeExpr) :
    Keeps (Untouched D api) (getOrAdd fuel type config) := by
  intro s hs
  cases ht : config.catalog.schemaType config.rules type with
  | error e =>
    rw [getOrAdd_of_type_error fuel s ht]
    exact hs
  | ok resolved =>
    cases hslots : slotsWith config.catalog fuel ⟨config.rules, resolved⟩ s with
    | error e =>
      rw [getOrAdd_of_slots_error hs.sound ht hslots]
      exact hs
    | ok slots =>
      obtain ⟨a, u, hu, rfl, hg, ha⟩ := getOrAdd_of_slots_ok hs.sound trivial ht hslots
      rw [hu]
      refine ⟨hs.sound.adds trivial hg ha, fun rules c hc => ?_, ?_⟩
      · by_cases hrules : rules = config.rules
        · subst hrules
          rw [hD c hc]
          exact (hD c hc ▸ hs.settled _ c hc).grows hg
        · refine (hs.settled rules c hc).of_others hg fun k hk => ?_
          have hkeys : ∀ k' ∈ [SchemaKey.mk config.rules resolved], k'.rules = config.rules :=
            fun k' hk' => congrArg SchemaKey.rules (List.mem_singleton.mp hk')
          exact (fills_of_slotsWith hslots (by simp)).others hkeys _ rfl k
            fun he => hrules (hk.symm.trans he)
      · rw [ha.indexes.others api (Ne.symm hapi)]
        exact hs.index

end Repository

namespace ApiGroup

theorem keeps_writeAll {I : Repository → Prop}
    (hI : ∀ config ∈ configs, ∀ fuel type, Keeps I (getOrAdd fuel type config)) :
    Keeps I (writeAll key configs formats fuel) :=
  .mapM (fun format => (format.keeps_render hI fuel).bind fun _ => .pure _) formats

theorem mirrors_writeAll (hne : configs ≠ []) (hkey : ∀ b ∈ configs, b.key.withoutRoot = key)
    (hD : ∀ b ∈ configs, D b.rules b.catalog) :
    Mirrors (Alike D key .empty) (fun _ => True) (writeAll key configs formats) := by
  obtain ⟨a, rest, rfl⟩ := List.exists_cons_of_ne_nil hne
  obtain rfl := hkey a List.mem_cons_self
  exact .mapM fun format _ => (format.mirrors_unindexed hD).map _

theorem left_of_keeps {I : Repository → Prop} (hs : I s)
    (hI : ∀ config ∈ configs, ∀ fuel type, Keeps I (getOrAdd fuel type config)) :
    I (left fuel formats key configs s) := by
  rw [left]
  cases Validate.configs fuel configs with
  | error e => exact hs
  | ok _ => exact keeps_writeAll hI s hs

theorem mirrors_writeAll_again (key : ApiKey) (configs : List ApiConfig)
    (formats : List DocumentFormat) :
    Mirrors Twice (fun _ => True) (writeAll key configs formats) :=
  .mapM fun format _ => (format.mirrors_again configs).map _

/-- A group that does not end for want of fuel ends the same with more. -/
theorem ended_settles (hs : Sound (fun _ => True) s)
    (h : (Prod.map some id (ended configs (Validate.configs fuel configs)
      ((writeAll key configs formats fuel).result s).1)).1.bind (·.error) ≠ some .outOfFuel) :
    ∃ n, ∀ fuel' ≥ n,
      ended configs (Validate.configs fuel' configs)
          ((writeAll key configs formats fuel').result s).1 =
        ended configs (Validate.configs fuel configs)
          ((writeAll key configs formats fuel).result s).1 ∧
      left fuel' formats key configs s = left fuel formats key configs s := by
  simp only [left]
  cases hv : Validate.configs fuel configs with
  | error e =>
    have he : Validate.configs fuel configs ≠ .error .outOfFuel := by
      rintro hv'
      rw [hv', ended_error] at h
      exact h rfl
    refine ⟨fuel, fun fuel' hfuel => ?_⟩
    rw [← (Validate.configs_cutShort hfuel configs).eq_of_ne he, hv, ended_error, ended_error]
    exact ⟨rfl, rfl⟩
  | ok _ =>
    rw [hv] at h
    rcases hwritten : (writeAll key configs formats fuel).result s with ⟨r, u⟩
    rw [hwritten] at h
    obtain ⟨n, hn⟩ := settles (mirrors_writeAll_again key configs formats) hs hwritten
      fun hr => h (by rw [hr]; rfl)
    refine ⟨max fuel n, fun fuel' hfuel => ?_⟩
    rw [← (Validate.configs_cutShort (show fuel ≤ fuel' by omega) configs).eq_of_ne (by simp [hv]),
      hv, hn fuel' (by omega)]
    exact ⟨rfl, rfl⟩

/-- A group that ends in `o` on one repository does so on another one, if what it writes comes to
the same there. -/
theorem ended_eventually {w : Nat → Compile (List GeneratedDocument)} {s t : Nat → Repository}
    (hw : ∀ fuel r, ((w fuel).result (s fuel)).1 = r → r ≠ .error .outOfFuel →
      ∃ n, ∀ fuel' ≥ n, ((w fuel').result (t fuel')).1 = r)
    {o : Option ApiGroup × List GeneratedDocument} (ho : o.1.bind (·.error) ≠ some .outOfFuel)
    {n : Nat} (hn : ∀ fuel ≥ n, Prod.map some id (ended configs (Validate.configs fuel configs)
      ((w fuel).result (s fuel)).1) = o) :
    ∃ n', ∀ fuel ≥ n', Prod.map some id (ended configs (Validate.configs fuel configs)
      ((w fuel).result (t fuel)).1) = o := by
  have hfails {fuel : Nat} {e : ApiError} (hfuel : fuel ≥ n)
      (hv : Validate.configs fuel configs = .error e) :
      Prod.map some id (ended configs (.error e) ((w fuel).result (t fuel)).1) = o := by
    rw [← hn fuel hfuel, hv]
    rfl
  by_cases hvalid : ∃ fuel ≥ n, Validate.configs fuel configs = .ok ()
  · obtain ⟨fuel, hfuel, hv⟩ := hvalid
    have hend := hn fuel hfuel
    rw [hv] at hend
    obtain ⟨n', hn'⟩ := hw fuel _ rfl fun hout => ho (by rw [← hend, hout]; rfl)
    refine ⟨max n n', fun fuel' hfuel' => ?_⟩
    cases hv' : Validate.configs fuel' configs with
    | error e => exact hfails (by omega) hv'
    | ok _ =>
      rw [hn' fuel' (by omega)]
      exact hend
  · refine ⟨n, fun fuel hfuel => ?_⟩
    cases hv : Validate.configs fuel configs with
    | error e => exact hfails hfuel hv
    | ok _ => exact (hvalid ⟨fuel, hfuel, hv⟩).elim

end ApiGroup

namespace GenerationRun

open ApiGroup DocumentFormat

theorem leftBy_of_keeps {I : Repository → Prop} {keys : List ApiKey} (hs : I s)
    (hI : ∀ k ∈ keys, ∀ config ∈ configsAt k configs, ∀ fuel type,
      Keeps I (getOrAdd fuel type config)) :
    I (leftBy fuel formats configs keys s) :=
  List.foldlRecOn keys _ hs fun _ hr k hk => left_of_keeps hr (hI k hk)

theorem sound_leftBy (fuel : Nat) (formats : List DocumentFormat) (configs : List ApiConfig)
    (keys : List ApiKey) : Sound (fun _ => True) (leftBy fuel formats configs keys {}) :=
  leftBy_of_keeps (.new _) fun _ _ _ _ fuel type => keeps_sound fuel type trivial

theorem leftBy_concat (fuel : Nat) (keys : List ApiKey) (k : ApiKey) :
    leftBy fuel formats configs (keys ++ [k]) s =
      left fuel formats k (configsAt k configs) (leftBy fuel formats configs keys s) := by
  rw [leftBy, List.foldl_append, List.foldl_cons, List.foldl_nil, ← leftBy]

/-- The catalogs of the API at `key`, by the rules they come with. -/
def CatalogOf (configs : List ApiConfig) (key : ApiKey) (rules : SerializationRules) (c : Catalog) :
    Prop :=
  ∃ b ∈ configsAt key configs, b.rules = rules ∧ b.catalog = c

/-- What the groups before it leave is for a group like a new repository. -/
theorem alike_leftBy {before after : List ApiKey}
    (hkeys : (ofConfigs configs).groups.keys = before ++ key :: after)
    (hshared : ∀ a ∈ configs, ∀ b ∈ configs, a.key.withoutRoot = key → b.key.withoutRoot ≠ key →
      a.rules = b.rules → a.catalog = b.catalog) :
    Alike (CatalogOf configs key) key .empty {} (leftBy fuel formats configs before {}) := by
  refine Untouched.alike (leftBy_of_keeps (.new _ _) fun k hk b hb => ?_)
  obtain ⟨hmem, rfl⟩ := mem_configsAt.mp hb
  have hother : b.key.withoutRoot ≠ key := fun he => (not_mem_of_keys hkeys).1 (he ▸ hk)
  refine keeps_untouched hother ?_
  rintro c ⟨a, ha, hrules, rfl⟩
  obtain ⟨ha, hown⟩ := mem_configsAt.mp ha
  exact hshared a ha b hmem hown hother hrules

/-! ## Runs that come to an end -/

/-- With enough fuel, no group of the run is stopped for want of it. -/
def Finishes (formats : List DocumentFormat) (configs : List ApiConfig) : Prop :=
  ∃ fuel, ∀ g ∈ ((ofConfigs configs).generate fuel formats {}).1.groups.values,
    g.error ≠ some .outOfFuel

/-- From some fuel on the API at `key` ends in `o`, and not for want of fuel. Other groups may go on
for ever. -/
def GroupEnds (formats : List DocumentFormat) (configs : List ApiConfig) (key : ApiKey)
    (o : Option ApiGroup × List GeneratedDocument) : Prop :=
  o.1.bind (·.error) ≠ some .outOfFuel ∧ ∃ n, ∀ fuel ≥ n, outcome fuel formats configs key = o

/-- The run comes to an end, and makes `o` of the API at `key`. -/
def ComesTo (formats : List DocumentFormat) (configs : List ApiConfig) (key : ApiKey)
    (o : Option ApiGroup × List GeneratedDocument) : Prop :=
  Finishes formats configs ∧ GroupEnds formats configs key o

theorem GroupEnds.unique {o o' : Option ApiGroup × List GeneratedDocument}
    (h : GroupEnds formats configs key o) (h' : GroupEnds formats configs key o') : o = o' := by
  obtain ⟨-, n, hn⟩ := h
  obtain ⟨-, n', hn'⟩ := h'
  exact (hn (max n n') (by omega)).symm.trans (hn' (max n n') (by omega))

theorem groupEnds_of_none (h : configsAt key configs = []) :
    GroupEnds formats configs key (none, []) :=
  ⟨by simp, 0, fun _ _ => outcome_of_none h⟩

theorem leftBy_settles
    (h : ∀ k, (outcome fuel formats configs k).1.bind (·.error) ≠ some .outOfFuel)
    (keys : List ApiKey) : ∀ after, (ofConfigs configs).groups.keys = keys ++ after →
      ∃ n, ∀ fuel' ≥ n,
        leftBy fuel' formats configs keys {} = leftBy fuel formats configs keys {} := by
  induction keys using List.reverseRecOn with
  | nil => exact fun _ _ => ⟨0, fun _ _ => by simp only [leftBy, List.foldl_nil]⟩
  | append_singleton keys k ih =>
    intro after hkeys
    rw [List.append_assoc, List.singleton_append] at hkeys
    obtain ⟨n, hn⟩ := ih _ hkeys
    have hk := h k
    rw [outcome_of_keys hkeys] at hk
    obtain ⟨n', hn'⟩ := ended_settles (sound_leftBy fuel formats configs keys) hk
    refine ⟨max n n', fun fuel' hfuel => ?_⟩
    rw [leftBy_concat, leftBy_concat, hn fuel' (by omega)]
    exact (hn' fuel' (by omega)).2

/-- A run in which no group is out of fuel comes to the same with more fuel. -/
theorem groupEnds_of_outcome
    (h : ∀ g ∈ ((ofConfigs configs).generate fuel formats {}).1.groups.values,
      g.error ≠ some .outOfFuel) (key : ApiKey) :
    GroupEnds formats configs key (outcome fuel formats configs key) := by
  have h (k : ApiKey) : (outcome fuel formats configs k).1.bind (·.error) ≠ some .outOfFuel := by
    rw [outcome]
    dsimp only
    cases hg : ((ofConfigs configs).generate fuel formats {}).1.groups.get? k with
    | none => simp
    | some g => exact h g (List.mem_map_of_mem (OrderedMap.mem_entries_iff.mpr hg))
  by_cases hne : configsAt key configs = []
  · rw [outcome_of_none hne]
    exact groupEnds_of_none hne
  obtain ⟨before, after, hkeys⟩ := List.append_of_mem (mem_keys_ofConfigs.mpr hne)
  have hkey := h key
  rw [outcome_of_keys hkeys] at hkey
  obtain ⟨n, hn⟩ := leftBy_settles h before _ hkeys
  obtain ⟨n', hn'⟩ := ended_settles (sound_leftBy fuel formats configs before) hkey
  refine ⟨h key, max n n', fun fuel' hfuel => ?_⟩
  rw [outcome_of_keys hkeys, outcome_of_keys hkeys, hn fuel' (by omega), (hn' fuel' (by omega)).1]

theorem comesTo_of_emitted (h : ((ofConfigs configs).generate fuel formats {}).1.groups.values.all
    (·.error.isNone) = true) (key : ApiKey) :
    ComesTo formats configs key (outcome fuel formats configs key) := by
  have hfuel : ∀ g ∈ ((ofConfigs configs).generate fuel formats {}).1.groups.values,
      g.error ≠ some .outOfFuel := by
    intro g hg
    rw [Option.isNone_iff_eq_none.mp (List.all_eq_true.mp h g hg)]
    simp
  exact ⟨⟨fuel, hfuel⟩, groupEnds_of_outcome hfuel key⟩

/-! ## In a batch and alone -/

/-- What a group ends in does not depend on the others, as long as the APIs that share its
serialization rules share its catalog. -/
theorem groupEnds_iff_alone
    (hshared : ∀ a ∈ configs, ∀ b ∈ configs, a.key.withoutRoot = key → b.key.withoutRoot ≠ key →
      a.rules = b.rules → a.catalog = b.catalog) {o : Option ApiGroup × List GeneratedDocument} :
    GroupEnds formats configs key o ↔ GroupEnds formats (configsAt key configs) key o := by
  by_cases hne : configsAt key configs = []
  · have hnone (fuel : Nat) : outcome fuel formats configs key = outcome fuel formats [] key := by
      rw [outcome_of_none hne, outcome_of_none rfl]
    simp only [GroupEnds, hne, hnone]
  obtain ⟨before, after, hkeys⟩ := List.append_of_mem (mem_keys_ofConfigs.mpr hne)
  have hbatch := outcome_of_keys hkeys
  have halone := outcome_of_only (configsAt_configsAt key configs) hne
  have hleft (fuel : Nat) : Alike (CatalogOf configs key) key .empty {}
      (leftBy fuel formats configs before {}) := alike_leftBy hkeys hshared
  have hmirrors : Mirrors (Alike (CatalogOf configs key) key .empty) (fun _ => True)
      (writeAll key (configsAt key configs) formats) :=
    mirrors_writeAll hne (fun b hb => (mem_configsAt.mp hb).2) fun b hb => ⟨b, hb, rfl, rfl⟩
  constructor
  · rintro ⟨ho, n, hn⟩
    obtain ⟨n', hn'⟩ := ended_eventually (fun fuel r hr hfuel => by
      obtain ⟨u, -, -, hsame⟩ := hmirrors.back _ _ (hleft fuel) fuel r _ (Prod.ext hr rfl) hfuel
      obtain ⟨n, hn⟩ := hsame trivial
      exact ⟨n, fun fuel' hfuel' => congrArg Prod.fst (hn fuel' hfuel')⟩) ho
      fun fuel hfuel => (hbatch fuel formats).symm.trans (hn fuel hfuel)
    exact ⟨ho, n', fun fuel hfuel => (halone fuel formats).trans (hn' fuel hfuel)⟩
  · rintro ⟨ho, n, hn⟩
    obtain ⟨n', hn'⟩ := ended_eventually (fun fuel r hr hfuel => by
      obtain ⟨n, hn⟩ := hmirrors.forth _ fuel r _ (Prod.ext hr rfl) hfuel trivial
      refine ⟨n, fun fuel' hfuel' => ?_⟩
      obtain ⟨v, hv, -⟩ := hn fuel' hfuel' _ (hleft fuel')
      exact congrArg Prod.fst hv) ho
      fun fuel hfuel => (halone fuel formats).symm.trans (hn fuel hfuel)
    exact ⟨ho, n', fun fuel hfuel => (hbatch fuel formats).trans (hn' fuel hfuel)⟩

/-- The run on the configurations of one API has no other group to wait for. -/
theorem finishes_of_groupEnds {o : Option ApiGroup × List GeneratedDocument}
    (h : GroupEnds formats (configsAt key configs) key o) :
    Finishes formats (configsAt key configs) := by
  obtain ⟨ho, n, hn⟩ := h
  refine ⟨n, fun g hg => ?_⟩
  obtain ⟨⟨k, _⟩, hentry, rfl⟩ := List.mem_map.mp hg
  have hgroup : (outcome n formats (configsAt key configs) k).1 = some _ :=
    OrderedMap.mem_entries_iff.mp hentry
  by_cases hk : k = key
  · subst hk
    rw [← hn n (Nat.le_refl n), hgroup] at ho
    exact ho
  · have hnone : configsAt k (configsAt key configs) = [] := by
      refine List.filter_eq_nil_iff.mpr fun a ha => ?_
      rw [decide_eq_true_eq, (mem_configsAt.mp ha).2]
      exact Ne.symm hk
    rw [outcome_of_none hnone] at hgroup
    cases hgroup

/-- A run on a batch that comes to an end leaves a group in the same stage, with the same error and
with the same documents as a run on it alone, as long as the APIs that share its serialization rules
share its catalog. A group that goes on for ever takes the others with it. -/
theorem apis_do_not_interfere (formats : List DocumentFormat) (configs : List ApiConfig)
    (key : ApiKey)
    (hshared : ∀ a ∈ configs, ∀ b ∈ configs, a.key.withoutRoot = key → b.key.withoutRoot ≠ key →
      a.rules = b.rules → a.catalog = b.catalog) (o : Option ApiGroup × List GeneratedDocument) :
    ComesTo formats configs key o ↔
      Finishes formats configs ∧ ComesTo formats (configsAt key configs) key o := by
  refine and_congr_right fun _ => ?_
  rw [groupEnds_iff_alone hshared]
  exact ⟨fun h => ⟨finishes_of_groupEnds h, h⟩, And.right⟩

/-- The API that returns the class that refers to itself, under another name. -/
def another (shared : SharedCatalog) : ApiConfig :=
  { returning (some (.raw "Node")) with shared, name := "another" }

theorem apis_do_not_interfere_node :
    let node := returning (some (.raw "Node"))
    let key := (another node.shared).key.withoutRoot
    ∃ g docs, g.stage = .emitted ∧
      ComesTo [.legacy] [node, another node.shared] key (some g, docs) ∧
      ComesTo [.legacy] [another node.shared] key (some g, docs) := by
  intro node key
  have hshared : ∀ a ∈ [node, another node.shared], ∀ b ∈ [node, another node.shared],
      a.key.withoutRoot = key → b.key.withoutRoot ≠ key → a.rules = b.rules →
      a.catalog = b.catalog := by
    have hall : ∀ a ∈ [node, another node.shared], a.catalog = selfReferring := by
      simp [node, another, returning, selfReferringConfig, ApiConfig.catalog, ApiConfig.setMethods,
        ApiConfig.default]
    exact fun a ha b hb _ _ _ => (hall a ha).trans (hall b hb).symm
  have hown : configsAt key [node, another node.shared] = [another node.shared] := rfl
  have hbatch : ComesTo [.legacy] [node, another node.shared] key
      (outcome 9 [.legacy] [node, another node.shared] key) :=
        comesTo_of_emitted (by decide +kernel) key
  have hstage : (outcome 9 [.legacy] [node, another node.shared] key).1.any (·.stage = .emitted) =
      true := by decide +kernel
  rcases ho : outcome 9 [.legacy] [node, another node.shared] key with ⟨g?, docs⟩
  rw [ho] at hbatch hstage
  cases g? with
  | none => cases hstage
  | some g =>
    have halone := (apis_do_not_interfere [.legacy] [node, another node.shared] key hshared
      (some g, docs)).mp hbatch
    exact ⟨g, docs, of_decide_eq_true hstage, hbatch, hown ▸ halone.2⟩

/-- An API is given the schemas of a class that another one has in its own catalog, if both
serialize by the same rules. -/
theorem catalogs_of_others_show :
    let node := returning (some (.raw "Node"))
    let bare := another ⟨"bare", Catalog.builtin.addClass { name := "Node" }⟩
    let key := bare.key.withoutRoot
    Finishes [.openApi] [node, bare] ∧
    ¬ ∀ o, ComesTo [.openApi] [node, bare] key o ↔
      ComesTo [.openApi] (configsAt key [node, bare]) key o := by
  intro node bare key
  have hbatch : ComesTo [.openApi] [node, bare] key (outcome 9 [.openApi] [node, bare] key) :=
    comesTo_of_emitted (by decide +kernel) key
  have halone : ComesTo [.openApi] (configsAt key [node, bare]) key
      (outcome 9 [.openApi] (configsAt key [node, bare]) key) :=
    comesTo_of_emitted (by decide +kernel) key
  have hdocs : (outcome 9 [.openApi] [node, bare] key).2.map (·.content) ≠
      (outcome 9 [.openApi] (configsAt key [node, bare]) key).2.map (·.content) := by decide +kernel
  refine ⟨hbatch.1, fun hsame => hdocs ?_⟩
  exact congrArg (·.2.map (·.content)) (((hsame _).mp hbatch).2.unique halone.2)

end GenerationRun

end ServiceApi
