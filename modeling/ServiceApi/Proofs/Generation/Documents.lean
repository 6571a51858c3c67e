import ServiceApi.Proofs.Generation.Calls

/-! # The documents of a run

An emission returns the documents of the groups that it emits, group after group and writer after
writer. A group that has been emitted is not emitted again, so no two calls return documents of one
API. -/

namespace ServiceApi

namespace GenerationRun

open ApiGroup

variable {run : GenerationRun} {calls : List Call} {c : Call} {key : ApiKey} {g g' : ApiGroup}
  {writers : List DocumentWriter} {s : RenderState} {d : GeneratedDocument}

/-- What each of the calls returns. -/
def returned (run : GenerationRun) : List Call → List (List GeneratedDocument)
  | [] => []
  | c :: calls => (run.call c).2 :: (run.call c).1.returned calls

theorem Changes.eq_of_ended (h : Changes key c g g') (hg : g.Ended) : g' = g := by
  induction h with
  | kept => rfl
  | validated hstage _ => exact absurd hg (not_ended_of_edge (hstage ▸ Stage.Edge.validated))
  | invalid hstage => exact absurd hg (not_ended_of_edge (hstage ▸ Stage.Edge.invalid))
  | emitted hstage => exact absurd hg (not_ended_of_edge (hstage ▸ Stage.Edge.emitted))
  | unwritten hstage => exact absurd hg (not_ended_of_edge (hstage ▸ Stage.Edge.unwritten))
  | generated _ _ ih ih' =>
    obtain rfl := ih hg
    exact ih' hg
  | moved hedge => exact absurd hg (not_ended_of_edge hedge)

/-- A document comes of a group that is validated before the emission and emitted after it, and the
documents of its API are what the writers make of the group. -/
theorem rendered_of_mem (h : d ∈ (run.emitWith writers s).2.1) :
    ∃ g, run.groups.get? d.key = some g ∧ g.stage = .validated ∧
      (run.emitWith writers s).1.groups.get? d.key = some { g with stage := .emitted } ∧
      ∃ t u, Rendered d.key g.configs writers t
        ((run.emitWith writers s).2.1.filter (·.key = d.key)) u := by
  have hkey : d.key ∈ run.groups.keys := by
    rw [(emitWith_eq writers run s).2] at h
    exact key_of_mem_emitEach h
  obtain ⟨g, hg⟩ := OrderedMap.mem_keys_iff.mp hkey
  obtain ⟨before, after, hplace⟩ := exists_place hg
  obtain ⟨hgroup, hdocs⟩ := emitWith_of_entries hplace writers s
  have hown : d ∈ (g.emit writers d.key (leftAfter writers before s)).2.1 := by
    rw [← hdocs]
    exact List.mem_filter.mpr ⟨h, decide_eq_true rfl⟩
  obtain ⟨hstage, hemitted, u, hrendered⟩ := rendered_of_mem_emit hown
  rw [← hdocs] at hrendered
  exact ⟨g, hg, hstage, hgroup.trans (congrArg some hemitted), _, u, hrendered⟩

/-- A call returns documents of groups that had not ended, and emits those groups. -/
theorem emitted_of_mem_call (h : d ∈ (run.call c).2) :
    (∃ g, run.groups.get? d.key = some g ∧ ¬ g.Ended) ∧
      ∃ g', (run.call c).1.groups.get? d.key = some g' ∧ g'.Ended := by
  have hnot {g : ApiGroup} (hstage : g.stage = .validated) : ¬ g.Ended :=
    not_ended_of_edge (hstage ▸ Stage.Edge.emitted)
  cases c with
  | validate fuel => cases h
  | emit writers s =>
    obtain ⟨g, hg, hstage, hemitted, -⟩ := rendered_of_mem h
    exact ⟨⟨g, hg, hnot hstage⟩, _, hemitted, .inl rfl⟩
  | generate fuel writers s =>
    obtain ⟨g₁, hg₁, hstage, hemitted, -⟩ := rendered_of_mem h
    obtain ⟨g, hg, hchanges⟩ := get?_of_call (c := .validate fuel) hg₁
    refine ⟨⟨g, hg, fun hended => ?_⟩, _, hemitted, .inl rfl⟩
    exact hnot hstage (hchanges.eq_of_ended hended ▸ hended)
  | transition k target =>
    rw [documents_of_transition] at h
    cases h

/-- A group that has ended has no more documents to come. -/
theorem key_ne_of_ended (hg : run.groups.get? key = some g) (hended : g.Ended) :
    ∀ docs ∈ run.returned calls, ∀ d ∈ docs, d.key ≠ key := by
  induction calls generalizing run with
  | nil => exact fun docs hdocs => (List.not_mem_nil hdocs).elim
  | cons c calls ih =>
    obtain ⟨g', hg', hchanges⟩ := exists_get?_call hg c
    obtain rfl := hchanges.eq_of_ended hended
    refine List.forall_mem_cons.mpr ⟨fun d hd => ?_, ih hg'⟩
    rintro rfl
    obtain ⟨⟨g₀, hg₀, hopen⟩, -⟩ := emitted_of_mem_call hd
    cases hg.symm.trans hg₀
    exact hopen hended

/-- No two calls return documents of one API. -/
theorem pairwise_returned (calls : List Call) : ∀ run : GenerationRun,
    (run.returned calls).Pairwise fun docs docs' => ∀ d ∈ docs, ∀ d' ∈ docs', d.key ≠ d'.key := by
  induction calls with
  | nil => exact fun run => .nil
  | cons c calls ih =>
    refine fun run => List.pairwise_cons.mpr ⟨fun docs hdocs d hd d' hd' heq => ?_, ih _⟩
    obtain ⟨-, g, hg, hended⟩ := emitted_of_mem_call hd
    exact key_ne_of_ended hg hended docs hdocs d' hd' heq.symm

/-- An emission returns, in the order of the groups, the documents of the groups that it moves from
validated to emitted: one of each writer. A group of which a writer fails has none and fails as the
writer does, other groups stay as they are, and no later call returns documents of the same API. -/
theorem emission_is_all_or_nothing (run : GenerationRun) (writers : List DocumentWriter)
    (s : RenderState) :
    let next := (run.emitWith writers s).1
    let docs := (run.emitWith writers s).2.1
    let ownDocs := fun key => docs.filter (·.key = key)
    next.groups.keys = run.groups.keys ∧ docs = run.groups.keys.flatMap ownDocs ∧
    (run.emitWith writers s).2.2 = leftAfter writers run.groups.entries s ∧
    (∀ before key g after, run.groups.entries = before ++ (key, g) :: after →
      let t := leftAfter writers before s
      (g.stage = .validated ∧ next.groups.get? key = some { g with stage := .emitted } ∧
        ∃ u, Rendered key g.configs writers t (ownDocs key) u) ∨
      (g.stage = .validated ∧ ownDocs key = [] ∧
        ∃ e u, FailsWith g.configs e writers t u ∧ next.groups.get? key = some (g.fail e)) ∨
      (g.stage ≠ .validated ∧ ownDocs key = [] ∧ next.groups.get? key = some g)) ∧
    ∀ calls : List Call, (run.returned calls).Pairwise fun docs docs' =>
      ∀ d ∈ docs, ∀ d' ∈ docs', d.key ≠ d'.key := by
  intro next docs ownDocs
  refine ⟨keys_emitWith writers run s, emitWith_eq_flatMap writers run s,
    congrArg Prod.snd (emitWith_eq writers run s).2, fun before key g after hplace => ?_,
    fun calls => pairwise_returned calls run⟩
  obtain ⟨hgroup, hdocs⟩ := emitWith_of_entries hplace writers s
  obtain ⟨hstage, h⟩ | ⟨hstage, new, u, hrendered, h⟩ | ⟨hstage, e, u, hfails, h⟩ :=
    g.emit_cases writers key (leftAfter writers before s)
  · rw [h] at hgroup hdocs
    exact .inr (.inr ⟨hstage, hdocs, hgroup⟩)
  · rw [h] at hgroup hdocs
    refine .inl ⟨hstage, hgroup, u, ?_⟩
    rwa [show ownDocs key = new from hdocs]
  · rw [h] at hgroup hdocs
    exact .inr (.inl ⟨hstage, hdocs, e, u, hfails, hgroup⟩)

theorem emission_is_all_or_nothing_shelves :
    let books : ApiKey := { name := "books", version := "v1" }
    let shelves : ApiKey := { name := "shelves", version := "v1" }
    let run := (ofConfigs [bareApi "books" "v1", bareApi "shelves" "v1"]).after [.validate 9]
    let index : DocumentWriter :=
      { name := "index", extension := "txt", contentType := "text/plain"
        render configs :=
          if configs.any (·.name == "shelves") then return "shelves"
            else throw (.invalidApiName "books") }
    let writers := [DocumentFormat.legacy.writer 9, index]
    let next := (run.emitWith writers {}).1
    let docs := (run.emitWith writers {}).2.1
    docs.map (·.fileName) = ["shelves-v1.api", "shelves-v1.txt"] ∧
    (∃ (g : ApiGroup) (e : ApiError) (t u : RenderState), FailsWith g.configs e writers t u ∧
      next.groups.get? books = some (g.fail e)) ∧
    ∃ (g : ApiGroup) (t u : RenderState), Rendered shelves g.configs writers t
      (docs.filter (·.key = shelves)) u ∧
        next.groups.get? shelves = some { g with stage := .emitted } := by
  intro books shelves run index writers next docs
  obtain ⟨-, -, -, hgroups, -⟩ := emission_is_all_or_nothing run writers {}
  -- Both are validated before, and only one of them is emitted.
  have hbefore : run.stage? books = some .validated ∧ run.stage? shelves = some .validated := by
    decide +kernel
  have hafter : next.stage? books = some .failed ∧ next.stage? shelves = some .emitted := by
    decide +kernel
  rw [stage?, stage?] at hafter
  refine ⟨by decide +kernel, ?_, ?_⟩
  · obtain ⟨g, hg, hvalidated⟩ := Option.map_eq_some_iff.mp hbefore.1
    obtain ⟨before, after, hplace⟩ := exists_place hg
    obtain ⟨-, hnext, -⟩ | ⟨-, -, e, u, hfails, hnext⟩ | ⟨hstage, -⟩ :=
      hgroups before books g after hplace
    · cases (congrArg _ hnext).symm.trans hafter.1
    · exact ⟨g, e, _, u, hfails, hnext⟩
    · exact absurd hvalidated hstage
  · obtain ⟨g, hg, hvalidated⟩ := Option.map_eq_some_iff.mp hbefore.2
    obtain ⟨before, after, hplace⟩ := exists_place hg
    obtain ⟨-, hnext, u, hrendered⟩ | ⟨-, -, e, u, -, hnext⟩ | ⟨hstage, -⟩ :=
      hgroups before shelves g after hplace
    · exact ⟨g, _, u, hrendered, hnext⟩
    · cases (congrArg _ hnext).symm.trans hafter.2
    · exact absurd hvalidated hstage

end GenerationRun

end ServiceApi
