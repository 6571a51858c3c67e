import Mathlib.Logic.Relation
import ServiceApi.Proofs.Generation.Groups

/-! # Calls of a run

A run is validated, emitted and moved on by hand, in any order and as often as one likes, and each
time with writers, schemas and a cache of the caller's choice. Whatever the calls are, its groups
keep their order and their configurations and go on along the stages, and an error that is noted
stays. A group that is moved to failed by hand has none. -/

namespace ServiceApi

/-! ## Stages -/

/-- The moves that there are between stages. -/
inductive Stage.Edge : Stage → Stage → Prop
  | validated : Edge .unvalidated .validated
  | invalid : Edge .unvalidated .failed
  | emitted : Edge .validated .emitted
  | unwritten : Edge .validated .failed

theorem Stage.canMoveTo_iff {a b : Stage} : a.canMoveTo b = true ↔ a.Edge b := by
  constructor
  · intro h
    cases a <;> cases b <;> first | constructor | cases h
  · intro h
    cases h <;> rfl

namespace GenerationRun

/-- A call of one of the operations of a run. -/
inductive Call where
  | validate (fuel : Nat)
  | emit (writers : List DocumentWriter) (s : RenderState)
  | generate (fuel : Nat) (writers : List DocumentWriter) (s : RenderState)
  | transition (key : ApiKey) (target : Stage)

/-- The run after a call, and the documents that the call returns. A transition that is refused
leaves the run as it is. -/
def call (run : GenerationRun) : Call → GenerationRun × List GeneratedDocument
  | .validate fuel => (run.validate fuel, [])
  | .emit writers s => ((run.emitWith writers s).1, (run.emitWith writers s).2.1)
  | .generate fuel writers s =>
    ((run.generateWith fuel writers s).1, (run.generateWith fuel writers s).2.1)
  | .transition key target =>
    match run.transition key target with
    | .ok moved => (moved, [])
    | .error _ => (run, [])

/-- The run after some calls. -/
def after (run : GenerationRun) (calls : List Call) : GenerationRun :=
  calls.foldl (fun r c => (r.call c).1) run

variable {run next moved : GenerationRun} {calls : List Call} {c : Call}
  {key k : ApiKey} {target : Stage}
  {g g' : ApiGroup} {fuel : Nat} {writers : List DocumentWriter} {s : RenderState}

theorem after_cons (run : GenerationRun) (c : Call) (calls : List Call) :
    run.after (c :: calls) = (run.call c).1.after calls := rfl

/-- To generate is to validate and then to emit. -/
theorem call_generate (run : GenerationRun) (fuel : Nat) (writers : List DocumentWriter)
    (s : RenderState) :
    run.call (.generate fuel writers s) = (run.call (.validate fuel)).1.call (.emit writers s) :=
      rfl

/-! ## Transitions -/

theorem transition_eq_ok_iff : run.transition key target = .ok moved ↔
    ∃ g, run.groups.get? key = some g ∧ g.stage.Edge target ∧
      moved = ⟨run.groups.insert key { g with stage := target }⟩ := by
  unfold transition
  cases hg : run.groups.get? key with
  | none => simp
  | some g =>
    dsimp only
    by_cases hedge : g.stage.canMoveTo target = true
    · simp [hedge, Stage.canMoveTo_iff.mp hedge, eq_comm]
    · simp [hedge, mt Stage.canMoveTo_iff.mpr hedge]

/-- A transition that is refused says where the group stands. -/
theorem transition_cases (run : GenerationRun) (key : ApiKey) (target : Stage) :
    (∃ moved, run.transition key target = .ok moved) ∨
      run.transition key target = .error (.invalidTransition key.text (run.stage? key) target) := by
  unfold transition stage?
  cases run.groups.get? key with
  | none => exact .inr rfl
  | some g =>
    dsimp only
    split
    · exact .inl ⟨_, rfl⟩
    · exact .inr rfl

theorem call_of_transition (h : run.transition key target = .ok moved) :
    run.call (.transition key target) = (moved, []) := by
  rw [call, h]

theorem documents_of_transition (run : GenerationRun) (key : ApiKey) (target : Stage) :
    (run.call (.transition key target)).2 = [] := by
  rw [call]
  split <;> rfl

/-- A transition changes the stage of its group and nothing else. -/
theorem get?_of_transition (hg : run.groups.get? key = some g)
    (h : run.transition key target = .ok moved) (k : ApiKey) :
    moved.groups.get? k = if k = key then some { g with stage := target }
      else run.groups.get? k := by
  obtain ⟨g', hg', -, rfl⟩ := transition_eq_ok_iff.mp h
  cases hg.symm.trans hg'
  exact OrderedMap.get?_insert ..

theorem keys_of_transition (h : run.transition key target = .ok moved) :
    moved.groups.keys = run.groups.keys := by
  obtain ⟨g, hg, -, rfl⟩ := transition_eq_ok_iff.mp h
  rw [OrderedMap.keys_insert, if_pos]
  exact OrderedMap.mem_keys_iff.mpr ⟨g, hg⟩

/-! ## What a call makes of a group -/

/-- What a call may make of the group at `key`. -/
inductive Changes (key : ApiKey) : Call → ApiGroup → ApiGroup → Prop
  | kept {c : Call} {g : ApiGroup} : Changes key c g g
  | validated {fuel : Nat} {g : ApiGroup} : g.stage = .unvalidated →
      Validate.configs fuel g.configs = .ok () →
      Changes key (.validate fuel) g { g with stage := .validated }
  | invalid {fuel : Nat} {g : ApiGroup} {e : ApiError} : g.stage = .unvalidated →
      Changes key (.validate fuel) g (g.fail e)
  | emitted {writers : List DocumentWriter} {s : RenderState} {g : ApiGroup} :
    g.stage = .validated →
      Changes key (.emit writers s) g { g with stage := .emitted }
  | unwritten {writers : List DocumentWriter} {s : RenderState} {g : ApiGroup} {e : ApiError} :
      g.stage = .validated → Changes key (.emit writers s) g (g.fail e)
  | generated {fuel : Nat} {writers : List DocumentWriter} {s : RenderState} {g g' g'' : ApiGroup} :
      Changes key (.validate fuel) g g' → Changes key (.emit writers s) g' g'' →
      Changes key (.generate fuel writers s) g g''
  | moved {target : Stage} {g : ApiGroup} : g.stage.Edge target →
      Changes key (.transition key target) g { g with stage := target }

theorem changes_validate (key : ApiKey) (fuel : Nat) (g : ApiGroup) :
    Changes key (.validate fuel) g (g.validate fuel) := by
  rw [ApiGroup.validate]
  split
  · rename_i hstage
    split
    · rename_i hvalid
      exact .validated hstage hvalid
    · exact .invalid hstage
  · exact .kept

theorem changes_emit (key : ApiKey) (writers : List DocumentWriter)
    (s t : RenderState) (g : ApiGroup) :
    Changes key (.emit writers s) g (g.emit writers key t).1 := by
  obtain ⟨-, h⟩ | ⟨hstage, docs, u, -, h⟩ | ⟨hstage, e, u, -, h⟩ := g.emit_cases writers key t
  · rw [h]
    exact .kept
  · rw [h]
    exact .emitted hstage
  · rw [h]
    exact .unwritten hstage

theorem get?_validate (h : run.groups.get? key = some g) (fuel : Nat) :
    (run.validate fuel).groups.get? key = some (g.validate fuel) := by
  rw [GenerationRun.validate, OrderedMap.get?_mapValues, h, Option.map_some]

theorem exists_get?_emit (h : run.groups.get? key = some g) (writers : List DocumentWriter)
    (s : RenderState) : ∃ g', (run.call (.emit writers s)).1.groups.get? key = some g' ∧
      Changes key (.emit writers s) g g' := by
  obtain ⟨before, after, hplace⟩ := exists_place h
  exact ⟨_, (emitWith_of_entries hplace writers s).1, changes_emit key writers s _ g⟩

/-- Every group is still there after a call, changed as the call may change it. -/
theorem exists_get?_call (h : run.groups.get? key = some g) (c : Call) :
    ∃ g', (run.call c).1.groups.get? key = some g' ∧ Changes key c g g' := by
  cases c with
  | validate fuel => exact ⟨_, get?_validate h fuel, changes_validate key fuel g⟩
  | emit writers s => exact exists_get?_emit h writers s
  | generate fuel writers s =>
    obtain ⟨g', hg', hchanges⟩ := exists_get?_emit (get?_validate h fuel) writers s
    exact ⟨g', hg', .generated (changes_validate key fuel g) hchanges⟩
  | transition k target =>
    rcases transition_cases run k target with ⟨moved, hmoved⟩ | hrefused
    · obtain ⟨g₀, hg₀, hedge, -⟩ := transition_eq_ok_iff.mp hmoved
      rw [call_of_transition hmoved, get?_of_transition hg₀ hmoved]
      by_cases hk : key = k
      · subst hk
        cases h.symm.trans hg₀
        exact ⟨_, if_pos rfl, .moved hedge⟩
      · exact ⟨g, (if_neg hk).trans h, .kept⟩
    · exact ⟨g, by rw [call, hrefused]; exact h, .kept⟩

theorem keys_call (run : GenerationRun) (c : Call) :
    (run.call c).1.groups.keys = run.groups.keys := by
  have hvalidate (fuel : Nat) : (run.validate fuel).groups.keys = run.groups.keys := by
    rw [GenerationRun.validate, OrderedMap.mapValues, OrderedMap.keys, List.map_map]
    rfl
  cases c with
  | validate fuel => exact hvalidate fuel
  | emit writers s => exact keys_emitWith writers run s
  | generate fuel writers s => exact (keys_emitWith writers _ s).trans (hvalidate fuel)
  | transition k target =>
    rcases transition_cases run k target with ⟨moved, hmoved⟩ | hrefused
    · rw [call_of_transition hmoved]
      exact keys_of_transition hmoved
    · rw [call, hrefused]

theorem keys_after (calls : List Call) : ∀ run : GenerationRun,
    (run.after calls).groups.keys = run.groups.keys := by
  induction calls with
  | nil => exact fun run => rfl
  | cons c calls ih => exact fun run => (ih _).trans (keys_call run c)

theorem exists_get?_of_keys (hkeys : next.groups.keys = run.groups.keys)
    (h : next.groups.get? key = some g') : ∃ g, run.groups.get? key = some g :=
  OrderedMap.mem_keys_iff.mp (hkeys ▸ OrderedMap.mem_keys_iff.mpr ⟨g', h⟩)

theorem get?_of_call (h : (run.call c).1.groups.get? key = some g') :
    ∃ g, run.groups.get? key = some g ∧ Changes key c g g' := by
  obtain ⟨g, hg⟩ := exists_get?_of_keys (keys_call run c) h
  obtain ⟨g₁, hg₁, hchanges⟩ := exists_get?_call hg c
  cases h.symm.trans hg₁
  exact ⟨g, hg, hchanges⟩

/-- The groups of a new run are still to be validated. -/
theorem of_get?_ofConfigs {configs : List ApiConfig}
    (h : (ofConfigs configs).groups.get? key = some g) :
    g = { configs := configsAt key configs } := by
  rw [get?_ofConfigs] at h
  cases hconfigs : configsAt key configs with
  | nil =>
    rw [hconfigs] at h
    cases h
  | cons a rest =>
    rw [hconfigs] at h
    exact (Option.some.inj h).symm

/-! ## Moves by hand -/

/-- One of the calls moves the group at `key` to `target` by hand. -/
def MovesByHand (run : GenerationRun) (calls : List Call) (key : ApiKey) (target : Stage) : Prop :=
  ∃ earlier later, calls = earlier ++ .transition key target :: later ∧
    ∃ moved, (run.after earlier).transition key target = .ok moved

theorem not_movesByHand_nil : ¬ MovesByHand run [] key target := by
  rintro ⟨earlier, later, hcalls, -⟩
  simp at hcalls

theorem movesByHand_cons : MovesByHand run (c :: calls) key target ↔
    (c = .transition key target ∧ ∃ moved, run.transition key target = .ok moved) ∨
      MovesByHand (run.call c).1 calls key target := by
  constructor
  · rintro ⟨_ | ⟨c', earlier⟩, later, hcalls, hmoved⟩
    · obtain ⟨rfl, -⟩ := List.cons.inj hcalls
      exact .inl ⟨rfl, hmoved⟩
    · obtain ⟨rfl, hrest⟩ := List.cons.inj hcalls
      exact .inr ⟨earlier, later, hrest, hmoved⟩
  · rintro (⟨rfl, hmoved⟩ | ⟨earlier, later, rfl, hmoved⟩)
    · exact ⟨[], calls, rfl, hmoved⟩
    · exact ⟨c :: earlier, later, rfl, hmoved⟩

theorem exists_get?_of_movesByHand (h : MovesByHand run calls key target) :
    ∃ g, run.groups.get? key = some g := by
  obtain ⟨earlier, -, -, moved, hmoved⟩ := h
  obtain ⟨g, hg, -⟩ := transition_eq_ok_iff.mp hmoved
  exact exists_get?_of_keys (keys_after earlier run) hg

end GenerationRun

/-! ## Along the stages -/

namespace ApiGroup

variable {g g' g'' : ApiGroup} {target : Stage}

/-- Nothing is left to do, for better or worse. -/
def Ended (g : ApiGroup) : Prop := g.stage = .emitted ∨ g.stage = .failed

theorem not_ended_of_edge (h : g.stage.Edge target) : ¬ g.Ended := by
  rw [Ended]
  generalize g.stage = stage at h
  cases h <;> simp

/-- An error is noted only where the group has failed. -/
def Consistent (g : ApiGroup) : Prop := g.error ≠ none → g.stage = .failed

theorem Consistent.error_of_edge (h : g.Consistent) (hedge : g.stage.Edge target) :
    g.error = none := by
  by_contra herror
  exact not_ended_of_edge hedge (.inr (h herror))

/-- The group goes on along the stages. It keeps its configurations and notes one error at most,
where it fails. -/
structure GoesOn (g g' : ApiGroup) : Prop where
  configs : g'.configs = g.configs
  path : Relation.ReflTransGen Stage.Edge g.stage g'.stage
  ended : g.Ended → g' = g
  error : g'.error = g.error ∨ g.error = none ∧ g'.stage = .failed

namespace GoesOn

theorem refl (g : ApiGroup) : GoesOn g g := ⟨rfl, .refl, fun _ => rfl, .inl rfl⟩

theorem trans (h : GoesOn g g') (h' : GoesOn g' g'') : GoesOn g g'' := by
  refine ⟨h'.configs.trans h.configs, h.path.trans h'.path, fun hended => ?_, ?_⟩
  · obtain rfl := h.ended hended
    exact h'.ended hended
  · rcases h.error with herror | ⟨hnone, hfailed⟩
    · rw [← herror]
      exact h'.error
    · obtain rfl := h'.ended (.inr hfailed)
      exact .inr ⟨hnone, hfailed⟩

theorem onward (h : g.stage.Edge target) : GoesOn g { g with stage := target } :=
  ⟨rfl, .single h, fun hended => absurd hended (not_ended_of_edge h), .inl rfl⟩

theorem fail (h : g.stage.Edge .failed) (hg : g.Consistent) (e : ApiError) : GoesOn g (g.fail e) :=
  ⟨rfl, .single h, fun hended => absurd hended (not_ended_of_edge h),
    .inr ⟨hg.error_of_edge h, rfl⟩⟩

end GoesOn

theorem Consistent.onward (hg : g.Consistent) (h : g.stage.Edge target) :
    Consistent { g with stage := target } :=
  fun herror => absurd (hg.error_of_edge h) herror

end ApiGroup

namespace GenerationRun

open ApiGroup

variable {run : GenerationRun} {c : Call} {key : ApiKey} {g g' : ApiGroup}

theorem Changes.goesOn (h : Changes key c g g') (hg : g.Consistent) :
    g.GoesOn g' ∧ g'.Consistent := by
  induction h with
  | kept => exact ⟨.refl _, hg⟩
  | validated hstage _ =>
    have hedge := hstage ▸ Stage.Edge.validated
    exact ⟨.onward hedge, hg.onward hedge⟩
  | invalid hstage => exact ⟨.fail (hstage ▸ .invalid) hg _, fun _ => rfl⟩
  | emitted hstage =>
    have hedge := hstage ▸ Stage.Edge.emitted
    exact ⟨.onward hedge, hg.onward hedge⟩
  | unwritten hstage => exact ⟨.fail (hstage ▸ .unwritten) hg _, fun _ => rfl⟩
  | generated _ _ ih ih' =>
    obtain ⟨hfirst, hg'⟩ := ih hg
    obtain ⟨hsecond, hg''⟩ := ih' hg'
    exact ⟨hfirst.trans hsecond, hg''⟩
  | moved hedge => exact ⟨.onward hedge, hg.onward hedge⟩

/-- One operation goes along one edge at most. -/
theorem Changes.edge (h : Changes key c g g')
    (hc : ∀ fuel writers s, c ≠ .generate fuel writers s) :
    g'.stage = g.stage ∨ g.stage.Edge g'.stage := by
  cases h with
  | kept => exact .inl rfl
  | validated hstage _ => exact .inr (hstage ▸ .validated)
  | invalid hstage => exact .inr (hstage ▸ .invalid)
  | emitted hstage => exact .inr (hstage ▸ .emitted)
  | unwritten hstage => exact .inr (hstage ▸ .unwritten)
  | generated => exact absurd rfl (hc _ _ _)
  | moved hedge => exact .inr hedge

/-- All groups of the run are consistent. -/
def Consistent (run : GenerationRun) : Prop :=
  ∀ key g, run.groups.get? key = some g → g.Consistent

theorem consistent_ofConfigs (configs : List ApiConfig) : (ofConfigs configs).Consistent := by
  intro key g hg herror
  rw [of_get?_ofConfigs hg] at herror
  exact absurd rfl herror

theorem Consistent.call (h : run.Consistent) (c : Call) : (run.call c).1.Consistent := by
  intro key g' hg'
  obtain ⟨g, hg, hchanges⟩ := get?_of_call hg'
  exact (hchanges.goesOn (h key g hg)).2

/-- Whatever is called, every group goes on. -/
theorem Consistent.after (calls : List Call) : ∀ {run : GenerationRun}, run.Consistent →
    (run.after calls).Consistent ∧ ∀ key g, run.groups.get? key = some g →
      ∃ g', (run.after calls).groups.get? key = some g' ∧ g.GoesOn g' := by
  induction calls with
  | nil => exact fun h => ⟨h, fun _ g hg => ⟨g, hg, .refl g⟩⟩
  | cons c calls ih =>
    intro run h
    obtain ⟨hconsistent, hall⟩ := ih (h.call c)
    refine ⟨hconsistent, fun key g hg => ?_⟩
    obtain ⟨g₁, hg₁, hchanges⟩ := exists_get?_call hg c
    obtain ⟨g', hg', hgoes⟩ := hall key g₁ hg₁
    exact ⟨g', hg', (hchanges.goesOn (h key g hg)).1.trans hgoes⟩

/-- Whatever has been called and is called, the groups of a batch keep their order and go on along
the stages, by one edge for each operation at most; errors are on failed groups only; and a
transition changes its group's stage along an edge and nothing else, or is refused and changes
nothing. -/
theorem groups_go_on_along_the_stages (configs : List ApiConfig) (earlier : List Call) :
    let run := (ofConfigs configs).after earlier
    run.Consistent ∧
    (∀ later, (run.after later).groups.keys = run.groups.keys ∧
      ∀ key g, run.groups.get? key = some g →
        ∃ g', (run.after later).groups.get? key = some g' ∧ g.GoesOn g') ∧
    (∀ c key g, run.groups.get? key = some g → (∀ fuel writers s, c ≠ .generate fuel writers s) →
      ∃ g', (run.call c).1.groups.get? key = some g' ∧
        (g'.stage = g.stage ∨ g.stage.Edge g'.stage)) ∧
    (∀ fuel writers s, run.call (.generate fuel writers s) =
      (run.call (.validate fuel)).1.call (.emit writers s)) ∧
    ∀ key target,
      (∃ g moved, run.groups.get? key = some g ∧ g.stage.Edge target ∧
        run.transition key target = .ok moved ∧ moved.groups.keys = run.groups.keys ∧
        ∀ k, moved.groups.get? k =
          if k = key then some { g with stage := target } else run.groups.get? k) ∨
      run.transition key target = .error (.invalidTransition key.text (run.stage? key) target) ∧
        (run.call (.transition key target)).1 = run := by
  intro run
  have hrun : run.Consistent := ((consistent_ofConfigs configs).after earlier).1
  refine ⟨hrun, fun later => ⟨keys_after later run, (hrun.after later).2⟩, fun c key g hg hc => ?_,
    call_generate run, fun key target => ?_⟩
  · obtain ⟨g', hg', hchanges⟩ := exists_get?_call hg c
    exact ⟨g', hg', hchanges.edge hc⟩
  · rcases transition_cases run key target with ⟨moved, hmoved⟩ | hrefused
    · obtain ⟨g, hg, hedge, -⟩ := transition_eq_ok_iff.mp hmoved
      exact .inl ⟨g, moved, hg, hedge, hmoved, keys_of_transition hmoved,
        get?_of_transition hg hmoved⟩
    · exact .inr ⟨hrefused, by rw [call, hrefused]⟩

/-- An API without methods. -/
def bareApi (name version : String) : ApiConfig :=
  { ApiConfig.default ⟨"library", .builtin⟩ {} "Service" with name, version }

theorem groups_go_on_along_the_stages_shelves :
    let key : ApiKey := { name := "shelves", version := "v1" }
    let run := (ofConfigs [bareApi "bad name" "v1", bareApi "shelves" "v1"]).after [.validate 9]
    let next := run.after [.emit [DocumentFormat.legacy.writer 9] {}]
    ∃ g g', run.groups.get? key = some g ∧ g.stage = .validated ∧
      next.groups.get? key = some g' ∧ g'.stage = .emitted ∧ g.GoesOn g' := by
  intro key run next
  obtain ⟨-, hlater, -⟩ := groups_go_on_along_the_stages
    [bareApi "bad name" "v1", bareApi "shelves" "v1"] [.validate 9]
  have hvalidated : run.stage? key = some .validated := by decide +kernel
  have hemitted : next.stage? key = some .emitted := by decide +kernel
  obtain ⟨g, hg, hstage⟩ := Option.map_eq_some_iff.mp hvalidated
  obtain ⟨g', hg', hstage'⟩ := Option.map_eq_some_iff.mp hemitted
  obtain ⟨g₁, hg₁, hgoes⟩ := (hlater [.emit [DocumentFormat.legacy.writer 9] {}]).2 key g hg
  cases hg'.symm.trans hg₁
  exact ⟨g, g', hg, hstage, hg', hstage', hgoes⟩

end GenerationRun

end ServiceApi
