import ServiceApi.Generation
import ServiceApi.Proofs.OrderedMap

/-! # Emission

A group is emitted with one document of each writer, or fails as the first of its writers does that
fails. A run emits its groups one after the other, each with what those before it leave to render
with, so what comes of a group is known from its place among the groups. -/

namespace ServiceApi

variable {writers : List DocumentWriter} {key : ApiKey} {g : ApiGroup} {configs : List ApiConfig}
  {s t u : RenderState} {docs : List GeneratedDocument} {d : GeneratedDocument} {e : ApiError}

/-! ## A group -/

namespace ApiGroup

/-- One document of each writer, in their order, each rendered with what the one before it
leaves. -/
inductive Rendered (key : ApiKey) (configs : List ApiConfig) :
    List DocumentWriter → RenderState → List GeneratedDocument → RenderState → Prop
  | none {s : RenderState} : Rendered key configs [] s [] s
  | next {writer : DocumentWriter} {writers : List DocumentWriter} {s t u : RenderState}
      {content : String} {docs : List GeneratedDocument} :
      s.render writer configs = (.ok content, t) → Rendered key configs writers t docs u →
      Rendered key configs (writer :: writers) s (writer.document key content :: docs) u

/-- One of the writers fails with `e`, and those before it do not fail. -/
inductive FailsWith (configs : List ApiConfig) (e : ApiError) :
    List DocumentWriter → RenderState → RenderState → Prop
  | here {writer : DocumentWriter} {writers : List DocumentWriter} {s u : RenderState} :
      s.render writer configs = (.error e, u) → FailsWith configs e (writer :: writers) s u
  | later {writer : DocumentWriter} {writers : List DocumentWriter} {s t u : RenderState}
      {content : String} :
      s.render writer configs = (.ok content, t) → FailsWith configs e writers t u →
      FailsWith configs e (writer :: writers) s u

theorem documents_of_rendered (h : Rendered key configs writers s docs u) :
    documents key configs writers s = (.ok docs, u) := by
  induction h with
  | none => rfl
  | next hfirst _ ih =>
    rw [documents, hfirst]
    dsimp only
    rw [ih]

theorem documents_of_failsWith (key : ApiKey) (h : FailsWith configs e writers s u) :
    documents key configs writers s = (.error e, u) := by
  induction h with
  | here hfirst => rw [documents, hfirst]
  | later hfirst _ ih =>
    rw [documents, hfirst]
    dsimp only
    rw [ih]

theorem rendered_or_failsWith (key : ApiKey) (configs : List ApiConfig) :
    ∀ (writers : List DocumentWriter) (s : RenderState),
      (∃ docs u, Rendered key configs writers s docs u) ∨ ∃ e u, FailsWith configs e writers s u
  | [], s => .inl ⟨[], s, .none⟩
  | writer :: writers, s => by
    rcases hfirst : s.render writer configs with ⟨e | content, t⟩
    · exact .inr ⟨e, t, .here hfirst⟩
    · rcases rendered_or_failsWith key configs writers t with ⟨docs, u, hrest⟩ | ⟨e, u, hrest⟩
      · exact .inl ⟨_, u, .next hfirst hrest⟩
      · exact .inr ⟨e, u, .later hfirst hrest⟩

theorem Rendered.key_of_mem (h : Rendered key configs writers s docs u)
    (hd : d ∈ docs) : d.key = key := by
  induction h with
  | none => cases hd
  | next _ _ ih =>
    rcases List.mem_cons.mp hd with rfl | hd
    · rfl
    · exact ih hd

theorem Rendered.map_fileName (h : Rendered key configs writers s docs u) :
    docs.map (·.fileName) = writers.map fun writer => key.fileStem ++ "." ++ writer.extension := by
  induction h with
  | none => rfl
  | next _ _ ih => exact congrArg (_ :: ·) ih

/-- Only a validated group is touched, and it is emitted or fails. -/
theorem emit_cases (writers : List DocumentWriter) (key : ApiKey) (g : ApiGroup) (s : RenderState) :
    g.stage ≠ .validated ∧ g.emit writers key s = (g, [], s) ∨
    g.stage = .validated ∧ (∃ docs u, Rendered key g.configs writers s docs u ∧
      g.emit writers key s = ({ g with stage := .emitted }, docs, u)) ∨
    g.stage = .validated ∧ ∃ e u, FailsWith g.configs e writers s u ∧
      g.emit writers key s = (g.fail e, [], u) := by
  by_cases hstage : g.stage = .validated
  · right
    rcases rendered_or_failsWith key g.configs writers s with ⟨docs, u, h⟩ | ⟨e, u, h⟩
    · exact .inl ⟨hstage, docs, u, h, by rw [emit, if_pos hstage, documents_of_rendered h]⟩
    · exact .inr ⟨hstage, e, u, h, by rw [emit, if_pos hstage, documents_of_failsWith key h]⟩
  · exact .inl ⟨hstage, by rw [emit, if_neg hstage]⟩

/-- A document comes of a group that was validated and is emitted now. -/
theorem rendered_of_mem_emit (h : d ∈ (g.emit writers key s).2.1) :
    g.stage = .validated ∧ (g.emit writers key s).1 = { g with stage := .emitted } ∧
      ∃ u, Rendered key g.configs writers s (g.emit writers key s).2.1 u := by
  obtain ⟨-, hemit⟩ | ⟨hstage, docs, u, hdocs, hemit⟩ | ⟨-, e, u, -, hemit⟩ :=
    emit_cases writers key g s
  · rw [hemit] at h
    cases h
  · rw [hemit]
    exact ⟨hstage, rfl, u, hdocs⟩
  · rw [hemit] at h
    cases h

end ApiGroup

/-! ## A run -/

namespace GenerationRun

open ApiGroup

variable {run : GenerationRun} {es before after : List (ApiKey × ApiGroup)}

/-- Emits groups one after the other. -/
def emitEach (writers : List DocumentWriter) : List (ApiKey × ApiGroup) → RenderState →
    List (ApiKey × ApiGroup) × List GeneratedDocument × RenderState
  | [], s => ([], [], s)
  | (key, g) :: es, s =>
    let first := g.emit writers key s
    let rest := emitEach writers es first.2.2
    ((key, first.1) :: rest.1, first.2.1 ++ rest.2.1, rest.2.2)

theorem emitEach_cons (writers : List DocumentWriter) (key : ApiKey) (g : ApiGroup)
    (es : List (ApiKey × ApiGroup)) (s : RenderState) : emitEach writers ((key, g) :: es) s =
      let first := g.emit writers key s
      let rest := emitEach writers es first.2.2
      ((key, first.1) :: rest.1, first.2.1 ++ rest.2.1, rest.2.2) := rfl

theorem emitEach_append (writers : List DocumentWriter) (fs : List (ApiKey × ApiGroup)) :
    ∀ (es : List (ApiKey × ApiGroup)) (s : RenderState), emitEach writers (es ++ fs) s =
      let x := emitEach writers es s
      let y := emitEach writers fs x.2.2
      (x.1 ++ y.1, x.2.1 ++ y.2.1, y.2.2)
  | [], s => rfl
  | (key, g) :: es, s => by
    rw [List.cons_append, emitEach_cons, emitEach_cons]
    dsimp only
    rw [emitEach_append writers fs es]
    simp only [List.cons_append, List.append_assoc]

theorem keys_emitEach (writers : List DocumentWriter) : ∀ (es : List (ApiKey × ApiGroup))
    (s : RenderState), (emitEach writers es s).1.map Prod.fst = es.map Prod.fst
  | [], _ => rfl
  | (key, g) :: es, s => by
    rw [emitEach_cons, List.map_cons, List.map_cons, keys_emitEach writers es]

theorem key_of_mem_emitEach : ∀ {es : List (ApiKey × ApiGroup)} {s : RenderState},
    d ∈ (emitEach writers es s).2.1 → d.key ∈ es.map Prod.fst
  | (key, g) :: es, s, hd => by
    rw [emitEach_cons] at hd
    rw [List.map_cons]
    rcases List.mem_append.mp hd with hd | hd
    · obtain ⟨-, -, u, hdocs⟩ := rendered_of_mem_emit hd
      exact hdocs.key_of_mem hd ▸ List.mem_cons_self
    · exact List.mem_cons_of_mem _ (key_of_mem_emitEach hd)

theorem filter_emit (writers : List DocumentWriter) (key : ApiKey) (g : ApiGroup)
    (s : RenderState) :
    (g.emit writers key s).2.1.filter (·.key = key) = (g.emit writers key s).2.1 := by
  refine List.filter_eq_self.mpr fun d hd => decide_eq_true ?_
  obtain ⟨-, -, u, hdocs⟩ := rendered_of_mem_emit hd
  exact hdocs.key_of_mem hd

theorem filter_emit_of_ne {k : ApiKey} (h : k ≠ key) :
    (g.emit writers key s).2.1.filter (·.key = k) = [] := by
  refine List.filter_eq_nil_iff.mpr fun d hd hk => h ?_
  obtain ⟨-, -, u, hdocs⟩ := rendered_of_mem_emit hd
  exact (of_decide_eq_true hk).symm.trans (hdocs.key_of_mem hd)

theorem filter_emitEach_eq_nil (h : key ∉ es.map Prod.fst) :
    (emitEach writers es s).2.1.filter (·.key = key) = [] := by
  refine List.filter_eq_nil_iff.mpr fun d hd hkey => h ?_
  exact of_decide_eq_true hkey ▸ key_of_mem_emitEach hd

/-- The documents come in the order of the groups. -/
theorem emitEach_eq_flatMap (writers : List DocumentWriter) :
    ∀ {es : List (ApiKey × ApiGroup)} (s : RenderState), (es.map Prod.fst).Nodup →
      (emitEach writers es s).2.1 =
        (es.map Prod.fst).flatMap fun k => (emitEach writers es s).2.1.filter (·.key = k)
  | [], _, _ => rfl
  | (key, g) :: es, s, h => by
    obtain ⟨hnew, h⟩ := List.nodup_cons.mp h
    rw [emitEach_cons]
    dsimp only
    rw [List.map_cons, List.flatMap_cons, List.filter_append, filter_emit,
      filter_emitEach_eq_nil hnew, List.append_nil]
    have hrest : ∀ k ∈ es.map Prod.fst, ((g.emit writers key s).2.1 ++
        (emitEach writers es (g.emit writers key s).2.2).2.1).filter (·.key = k) =
          (emitEach writers es (g.emit writers key s).2.2).2.1.filter (·.key = k) := by
      intro k hk
      have hne : k ≠ key := fun heq => hnew (heq ▸ hk)
      rw [List.filter_append, filter_emit_of_ne hne, List.nil_append]
    rw [List.flatMap_congr hrest, ← emitEach_eq_flatMap writers _ h]

/-- Emits one more group. -/
def emitNext (writers : List DocumentWriter)
    (x : GenerationRun × List GeneratedDocument × RenderState)
    (entry : ApiKey × ApiGroup) : GenerationRun × List GeneratedDocument × RenderState :=
  let y := entry.2.emit writers entry.1 x.2.2
  (⟨x.1.groups.insert entry.1 y.1⟩, x.2.1 ++ y.2.1, y.2.2)

theorem emitWith_eq_foldl (writers : List DocumentWriter) (run : GenerationRun) (s : RenderState) :
    run.emitWith writers s = run.groups.entries.foldl (emitNext writers) (run, [], s) := rfl

/-- Emitting a run leaves its groups in their places. -/
theorem emitWith_eq (writers : List DocumentWriter) (run : GenerationRun) (s : RenderState) :
    (run.emitWith writers s).1.groups.entries = (emitEach writers run.groups.entries s).1 ∧
      (run.emitWith writers s).2 = (emitEach writers run.groups.entries s).2 := by
  -- What is emitted already stands before what is still to come.
  suffices h : ∀ (es done : List (ApiKey × ApiGroup)) (r : GenerationRun)
      (docs : List GeneratedDocument) (s : RenderState), r.groups.entries = done ++ es →
      let x := es.foldl (emitNext writers) (r, docs, s)
      x.1.groups.entries = done ++ (emitEach writers es s).1 ∧
        x.2 = (docs ++ (emitEach writers es s).2.1, (emitEach writers es s).2.2) by
    rw [emitWith_eq_foldl]
    exact h run.groups.entries [] run [] s rfl
  intro es
  induction es with
  | nil => exact fun done r docs s hr => ⟨hr, by rw [List.foldl_nil, emitEach, List.append_nil]⟩
  | cons entry es ih =>
    obtain ⟨key, g⟩ := entry
    intro done r docs s hr
    have hnew : key ∉ done.map Prod.fst := by
      have hnodup := r.groups.nodup
      rw [hr, List.map_append, List.map_cons, List.nodup_append] at hnodup
      exact fun hmem => hnodup.2.2 key hmem key List.mem_cons_self rfl
    rw [List.foldl_cons]
    have hnext : (r.groups.insert key (g.emit writers key s).1).entries =
        (done ++ [(key, (g.emit writers key s).1)]) ++ es := by
      rw [OrderedMap.entries_insert, hr, Entries.put_append hnew, Entries.put, if_pos rfl,
        List.append_assoc, List.singleton_append]
    obtain ⟨hentries, hrest⟩ := ih _ ⟨r.groups.insert key (g.emit writers key s).1⟩
      (docs ++ (g.emit writers key s).2.1) (g.emit writers key s).2.2 hnext
    refine ⟨hentries.trans ?_, hrest.trans ?_⟩
    · rw [emitEach_cons, List.append_assoc, List.singleton_append]
    · rw [emitEach_cons, List.append_assoc]

/-- What the groups leave to render with. -/
def leftAfter (writers : List DocumentWriter) (es : List (ApiKey × ApiGroup)) (s : RenderState) :
    RenderState :=
  (emitEach writers es s).2.2

theorem keys_emitWith (writers : List DocumentWriter) (run : GenerationRun) (s : RenderState) :
    (run.emitWith writers s).1.groups.keys = run.groups.keys := by
  rw [OrderedMap.keys, (emitWith_eq writers run s).1, keys_emitEach, OrderedMap.keys]

theorem emitWith_eq_flatMap (writers : List DocumentWriter) (run : GenerationRun)
    (s : RenderState) : (run.emitWith writers s).2.1 =
      run.groups.keys.flatMap fun k => (run.emitWith writers s).2.1.filter (·.key = k) := by
  rw [(emitWith_eq writers run s).2]
  exact emitEach_eq_flatMap writers s run.groups.nodup

/-- What comes of a group, by its place among the groups. -/
theorem emitWith_of_entries (hrun : run.groups.entries = before ++ (key, g) :: after)
    (writers : List DocumentWriter) (s : RenderState) :
    (run.emitWith writers s).1.groups.get? key =
        some (g.emit writers key (leftAfter writers before s)).1 ∧
      (run.emitWith writers s).2.1.filter (·.key = key) =
        (g.emit writers key (leftAfter writers before s)).2.1 := by
  obtain ⟨hentries, hrest⟩ := emitWith_eq writers run s
  have hnodup := run.groups.nodup
  rw [hrun, List.map_append, List.map_cons, List.nodup_append, List.nodup_cons] at hnodup
  have hbefore : key ∉ before.map Prod.fst :=
    fun hmem => hnodup.2.2 key hmem key List.mem_cons_self rfl
  rw [hrun, emitEach_append] at hentries hrest
  dsimp only at hentries hrest
  rw [emitEach_cons] at hentries hrest
  refine ⟨OrderedMap.mem_entries_iff.mp ?_, ?_⟩
  · rw [hentries]
    exact List.mem_append_right _ List.mem_cons_self
  · rw [hrest]
    dsimp only
    rw [List.filter_append, List.filter_append, filter_emitEach_eq_nil hbefore, filter_emit,
      filter_emitEach_eq_nil hnodup.2.1.1, List.nil_append, List.append_nil, leftAfter]

theorem exists_place (h : run.groups.get? key = some g) :
    ∃ before after, run.groups.entries = before ++ (key, g) :: after :=
  List.append_of_mem (OrderedMap.mem_entries_iff.mpr h)

end GenerationRun

end ServiceApi
