import Mathlib.Data.List.Perm.Subperm
import ServiceApi.Proofs.Generation.Calls

/-! # Failures of a run

The failures of a run are the groups with an error. Validation and emission note one wherever a
group fails, and a move by hand does not: a group that is moved to failed stands there without a
word, and is not among the failures. -/

namespace ServiceApi

/-! ## Failing in silence -/

/-- Failed, and without an error. -/
def ApiGroup.Silent (g : ApiGroup) : Prop := g.stage = .failed ∧ g.error = none

namespace GenerationRun

open ApiGroup

variable {run moved : GenerationRun} {calls : List Call} {c : Call} {key : ApiKey} {target : Stage}
  {g g' : ApiGroup} {e : ApiError}

/-- Only a move by hand makes a group fail in silence. -/
theorem Changes.silent (h : Changes key c g g') (hg' : g'.Silent) :
    g.Silent ∨ c = .transition key .failed ∧ g.stage.Edge .failed := by
  induction h with
  | kept => exact .inl hg'
  | validated => exact nomatch hg'.1
  | invalid => exact nomatch hg'.2
  | emitted => exact nomatch hg'.1
  | unwritten => exact nomatch hg'.2
  | generated _ _ ih ih' =>
    obtain hsilent | ⟨hcall, -⟩ := ih' hg'
    · obtain hsilent | ⟨hcall, -⟩ := ih hsilent
      · exact .inl hsilent
      · cases hcall
    · cases hcall
  | moved hedge =>
    obtain ⟨rfl, -⟩ := hg'
    exact .inr ⟨rfl, hedge⟩

theorem silent_call_iff (hrun : run.Consistent) (hg : run.groups.get? key = some g)
    (hg' : (run.call c).1.groups.get? key = some g') :
    g'.Silent ↔ g.Silent ∨
      c = .transition key .failed ∧ ∃ moved, run.transition key .failed = .ok moved := by
  obtain ⟨g₁, hg₁, hchanges⟩ := exists_get?_call hg c
  cases hg'.symm.trans hg₁
  constructor
  · intro hsilent
    obtain hsilent | ⟨hc, hedge⟩ := hchanges.silent hsilent
    · exact .inl hsilent
    · exact .inr ⟨hc, _, transition_eq_ok_iff.mpr ⟨g, hg, hedge, rfl⟩⟩
  · rintro (hsilent | ⟨rfl, moved, hmoved⟩)
    · rwa [((hchanges.goesOn (hrun key g hg)).1).ended (.inr hsilent.1)]
    · obtain ⟨g₀, hg₀, hedge, -⟩ := transition_eq_ok_iff.mp hmoved
      cases hg.symm.trans hg₀
      rw [call_of_transition hmoved, get?_of_transition hg hmoved, if_pos rfl] at hg'
      cases hg'
      exact ⟨rfl, (hrun key g hg).error_of_edge hedge⟩

theorem silent_after_iff (hrun : run.Consistent) (hg : run.groups.get? key = some g)
    (hg' : (run.after calls).groups.get? key = some g') :
    g'.Silent ↔ g.Silent ∨ MovesByHand run calls key .failed := by
  induction calls generalizing run g with
  | nil =>
    cases hg.symm.trans hg'
    simp [not_movesByHand_nil]
  | cons c calls ih =>
    obtain ⟨g₁, hg₁, -⟩ := exists_get?_call hg c
    rw [ih (hrun.call c) hg₁ hg', silent_call_iff hrun hg hg₁, movesByHand_cons, or_assoc]

/-- In a batch nothing has failed at first. -/
theorem silent_iff_movesByHand {configs : List ApiConfig}
    (hg : ((ofConfigs configs).after calls).groups.get? key = some g) :
    g.Silent ↔ MovesByHand (ofConfigs configs) calls key .failed := by
  obtain ⟨g₀, hg₀⟩ := exists_get?_of_keys (keys_after calls _) hg
  rw [silent_after_iff (consistent_ofConfigs configs) hg₀ hg, or_iff_right]
  rw [of_get?_ofConfigs hg₀]
  exact fun hsilent => nomatch hsilent.1

/-! ## What is listed -/

theorem mem_failures : (key, e) ∈ run.failures ↔
    ∃ g, run.groups.get? key = some g ∧ g.error = some e := by
  rw [failures, List.mem_filterMap]
  constructor
  · rintro ⟨⟨k, g⟩, hmem, h⟩
    obtain ⟨e', he', heq⟩ := Option.map_eq_some_iff.mp h
    cases heq
    exact ⟨g, OrderedMap.mem_entries_iff.mp hmem, he'⟩
  · rintro ⟨g, hg, he⟩
    exact ⟨(key, g), OrderedMap.mem_entries_iff.mpr hg, by simp [he]⟩

/-- The APIs that have failed, in the order of the groups. -/
def failed (run : GenerationRun) : List ApiKey :=
  run.groups.keys.filter fun key => run.stage? key = some .failed

theorem mem_failed : key ∈ run.failed ↔ ∃ g, run.groups.get? key = some g ∧ g.stage = .failed := by
  rw [failed, List.mem_filter, decide_eq_true_iff, stage?, Option.map_eq_some_iff,
    and_iff_right_iff_imp]
  rintro ⟨g, hg, -⟩
  exact OrderedMap.mem_keys_iff.mpr ⟨g, hg⟩

theorem failed_eq_map (run : GenerationRun) :
    run.failed = (run.groups.entries.filter (·.2.stage = .failed)).map Prod.fst := by
  rw [failed, OrderedMap.keys, List.filter_map]
  congr 1
  refine List.filter_congr fun e he => ?_
  rw [Function.comp_apply, stage?, OrderedMap.mem_entries_iff.mp he]
  simp

theorem failures_map_fst (run : GenerationRun) :
    run.failures.map Prod.fst = (run.groups.entries.filter (·.2.error.isSome)).map Prod.fst := by
  rw [failures]
  induction run.groups.entries with
  | nil => rfl
  | cons entry es ih =>
    obtain ⟨k, g⟩ := entry
    cases herror : g.error with
    | none =>
      rw [List.filterMap_cons_none (by simp [herror]),
        List.filter_cons_of_neg (by simp [herror]), ih]
    | some e =>
      rw [List.filterMap_cons_some (by simp [herror]; rfl),
        List.filter_cons_of_pos (by simp [herror]), List.map_cons, List.map_cons, ih]

theorem mem_map_fst_failures : key ∈ run.failures.map Prod.fst ↔
    ∃ g, run.groups.get? key = some g ∧ g.error ≠ none := by
  rw [List.mem_map]
  constructor
  · rintro ⟨⟨k, e⟩, hmem, rfl⟩
    obtain ⟨g, hg, he⟩ := mem_failures.mp hmem
    exact ⟨g, hg, by simp [he]⟩
  · rintro ⟨g, hg, herror⟩
    obtain ⟨e, he⟩ := Option.ne_none_iff_exists'.mp herror
    exact ⟨(key, e), mem_failures.mpr ⟨g, hg, he⟩, rfl⟩

/-- Where errors are on failed groups only, the failures are failed groups in their order. -/
theorem failures_sublist (h : run.Consistent) : (run.failures.map Prod.fst).Sublist run.failed := by
  rw [failures_map_fst, failed_eq_map]
  have hfilter : run.groups.entries.filter (·.2.error.isSome) =
      (run.groups.entries.filter (·.2.stage = .failed)).filter (·.2.error.isSome) := by
    rw [List.filter_filter]
    refine List.filter_congr fun entry hentry => ?_
    cases herror : entry.2.error with
    | none => rfl
    | some e =>
      have hfailed := h entry.1 entry.2 (OrderedMap.mem_entries_iff.mp hentry) (by simp [herror])
      simp [hfailed]
  rw [hfilter]
  exact List.filter_sublist.map _

/-- The failures of a batch are, in the order of the groups and with their errors, the groups that
have failed but were not moved there by hand. So they are all that have failed if and only if none
was. -/
theorem failures_leave_out_moves_by_hand (configs : List ApiConfig) (calls : List Call) :
    let run := (ofConfigs configs).after calls
    (run.failures.map Prod.fst).Sublist run.failed ∧
    (∀ key e, (key, e) ∈ run.failures ↔
      ∃ g, run.groups.get? key = some g ∧ g.stage = .failed ∧ g.error = some e) ∧
    (∀ key, key ∈ run.failures.map Prod.fst ↔
      key ∈ run.failed ∧ ¬ MovesByHand (ofConfigs configs) calls key .failed) ∧
    (run.failures.map Prod.fst = run.failed ↔
      ∀ key, ¬ MovesByHand (ofConfigs configs) calls key .failed) := by
  intro run
  obtain ⟨hrun, hall⟩ := (consistent_ofConfigs configs).after calls
  have hlisted (key : ApiKey) : key ∈ run.failures.map Prod.fst ↔
      key ∈ run.failed ∧ ¬ MovesByHand (ofConfigs configs) calls key .failed := by
    rw [mem_map_fst_failures, mem_failed]
    constructor
    · rintro ⟨g, hg, herror⟩
      exact ⟨⟨g, hg, hrun key g hg herror⟩,
        fun hmoves => herror ((silent_iff_movesByHand hg).mpr hmoves).2⟩
    · rintro ⟨⟨g, hg, hfailed⟩, hmoves⟩
      exact ⟨g, hg, fun hnone => hmoves ((silent_iff_movesByHand hg).mp ⟨hfailed, hnone⟩)⟩
  have hsub := failures_sublist hrun
  refine ⟨hsub, fun key e => ?_, hlisted, fun heq key hmoves => ?_, fun hnone => ?_⟩
  · rw [mem_failures]
    constructor
    · rintro ⟨g, hg, he⟩
      exact ⟨g, hg, hrun key g hg (by simp [he]), he⟩
    · rintro ⟨g, hg, -, he⟩
      exact ⟨g, hg, he⟩
  · obtain ⟨g₀, hg₀⟩ := exists_get?_of_movesByHand hmoves
    obtain ⟨g, hg, -⟩ := hall key g₀ hg₀
    have hfailed : key ∈ run.failed :=
      mem_failed.mpr ⟨g, hg, ((silent_iff_movesByHand hg).mpr hmoves).1⟩
    exact ((hlisted key).mp (heq ▸ hfailed)).2 hmoves
  · have hall : run.failed ⊆ run.failures.map Prod.fst :=
      fun key hfailed => (hlisted key).mpr ⟨hfailed, hnone key⟩
    have hnodup : run.failed.Nodup := run.groups.nodup.filter _
    exact hsub.eq_of_length_le (List.subperm_of_subset hnodup hall).length_le

theorem failures_leave_out_moves_by_hand_shelves :
    let bad : ApiKey := { name := "bad name", version := "v1" }
    let shelves : ApiKey := { name := "shelves", version := "v1" }
    let batch := ofConfigs [bareApi "bad name" "v1", bareApi "shelves" "v1"]
    let calls := [.validate 9, .transition shelves .failed]
    (batch.after calls).failed = [bad, shelves] ∧
      (batch.after calls).failures.map Prod.fst = [bad] ∧
      ¬ MovesByHand batch calls bad .failed ∧ MovesByHand batch calls shelves .failed := by
  intro bad shelves batch calls
  obtain ⟨-, -, hlisted, -⟩ := failures_leave_out_moves_by_hand
    [bareApi "bad name" "v1", bareApi "shelves" "v1"] calls
  have hfailed : (batch.after calls).failed = [bad, shelves] := by decide +kernel
  have hfailures : (batch.after calls).failures.map Prod.fst = [bad] := by decide +kernel
  refine ⟨hfailed, hfailures, ((hlisted bad).mp (hfailures ▸ List.mem_singleton_self bad)).2, ?_⟩
  by_contra hnone
  have hmem := (hlisted shelves).mpr ⟨hfailed ▸ by simp, hnone⟩
  rw [hfailures, List.mem_singleton] at hmem
  exact absurd hmem (by decide)

/-- A group that is moved to failed by hand has failed, and is no failure of its run. -/
theorem moves_to_failed_are_silent :
    let shelves : ApiKey := { name := "shelves", version := "v1" }
    let batch := ofConfigs [bareApi "books" "v1", bareApi "shelves" "v1"]
    let run := batch.after [.transition shelves .failed, .validate 9]
    (batch.transition shelves .failed).isOk = true ∧ run.stage? shelves = some .failed ∧
      run.failures.map Prod.fst = [] ∧ run.failures.map Prod.fst ≠ run.failed := by
  decide +kernel

end GenerationRun

end ServiceApi
