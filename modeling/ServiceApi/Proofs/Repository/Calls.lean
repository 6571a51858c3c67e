import ServiceApi.Proofs.Repository.GetOrAdd

/-! # Sequences of calls

A repository starts empty and is used by calls of which any may fail. Each call finds it settled and
leaves it so, whatever catalogs the calls come with; slots that are filled stay as they are. -/

namespace ServiceApi

open Schema Compile

variable {P : Catalog → Prop} {repo : Repository} {call : Call} {a : Compiled}

/-- A use of a repository. -/
inductive Call where
  | get (type : TypeExpr) (config : ApiConfig)
  | getOrAdd (fuel : Nat) (type : TypeExpr) (config : ApiConfig)
  | resolve (key : SchemaKey)

namespace Call

/-- What a call answers, and the repository that it leaves. -/
def result (repo : Repository) : Call → Except ApiError (Option Compiled) × Repository
  | get type config => (repo.get? type config, repo)
  | getOrAdd fuel type config =>
    let (answer, repo') := (Repository.getOrAdd fuel type config).result repo
    (answer.map some, repo')
  | resolve key => ((repo.resolve key).map some, repo)

/-- The catalog that a call comes with is in `P`. -/
def Within (P : Catalog → Prop) : Call → Prop
  | get _ config | getOrAdd _ _ config => P config.catalog
  | resolve _ => True

theorem within_any (call : Call) : call.Within fun _ => True := by
  cases call <;> trivial

end Call

/-- The repository after some calls. -/
def Repository.after (repo : Repository) (calls : List Call) : Repository :=
  calls.foldl (fun r call => (call.result r).2) repo

namespace Repository

theorem after_append (repo : Repository) (before later : List Call) :
    repo.after (before ++ later) = (repo.after before).after later := List.foldl_append

theorem after_cons (repo : Repository) (call : Call) (calls : List Call) :
    repo.after (call :: calls) = (call.result repo).2.after calls := rfl

/-- Some calls lead from a new repository to `repo`. -/
def Reachable (repo : Repository) : Prop := ∃ calls, repo = ({} : Repository).after calls

/-- Slots that are filled stay as they are. -/
def KeepsSlots (s u : Repository) : Prop :=
  ∀ key x, s.slots.get? key = some x → u.slots.get? key = some x

theorem Sound.result (hs : Sound P repo) (hc : call.Within P) :
    Sound P (call.result repo).2 ∧ KeepsSlots repo (call.result repo).2 := by
  cases call with
  | get type config => exact ⟨hs, fun _ _ h => h⟩
  | resolve key => exact ⟨hs, fun _ _ h => h⟩
  | getOrAdd fuel type config =>
    rw [Call.result]
    rcases getOrAdd_cases hs hc fuel type with ⟨e, he, -⟩ | ⟨resolved, a, u, -, hu, hg, ha⟩
    · rw [he]
      exact ⟨hs, fun _ _ h => h⟩
    · rw [hu]
      exact ⟨hs.adds hc hg ha, hg.keeps⟩

theorem Sound.after (hs : Sound P repo) (calls : List Call) (hc : ∀ call ∈ calls, call.Within P) :
    Sound P (repo.after calls) ∧ KeepsSlots repo (repo.after calls) := by
  induction calls generalizing repo with
  | nil => exact ⟨hs, fun _ _ h => h⟩
  | cons call calls ih =>
    obtain ⟨hs₁, hk₁⟩ := hs.result (hc call List.mem_cons_self)
    obtain ⟨hs₂, hk₂⟩ := ih hs₁ fun call' h => hc call' (List.mem_cons_of_mem call h)
    exact ⟨hs₂, fun key x h => hk₂ key x (hk₁ key x h)⟩

theorem sound_after (calls : List Call) : Sound (fun _ => True) (({} : Repository).after calls) :=
  (Sound.after (.new _) calls fun call _ => call.within_any).1

theorem Reachable.new : Reachable {} := ⟨[], rfl⟩

theorem Reachable.sound (h : Reachable repo) : Sound (fun _ => True) repo := by
  obtain ⟨calls, rfl⟩ := h
  exact sound_after calls

/-! ## What calls answer -/

theorem Sound.get?_spares (hs : Sound P repo) (type : TypeExpr) (config : ApiConfig) :
    SparesRepository (repo.get? type config) := by
  refine (config.catalog.schemaType_failsBy config.rules type).ofTypes.spares.bind
    fun resolved => ?_
  split
  · exact .ok _
  · split
    · exact .ok _
    · rcases hs.settled.lookup_eq ⟨config.rules, resolved⟩ with h | ⟨s, h⟩
      · rw [h]
        exact .ok _
      · rw [h]
        exact .ok _

theorem Sound.getOrAdd_spares (hs : Sound P repo) {config : ApiConfig} (hc : P config.catalog)
    (fuel : Nat) (type : TypeExpr) :
    SparesRepository ((getOrAdd fuel type config).result repo).1 := by
  rcases getOrAdd_cases hs hc fuel type with ⟨e, he, hspares⟩ | ⟨resolved, a, u, -, hu, -, -⟩
  · rw [he]
    exact .error hspares
  · rw [hu]
    exact .ok a

theorem get?_of_type_ok {type resolved : TypeExpr} {config : ApiConfig}
    (h : config.catalog.schemaType config.rules type = .ok resolved) :
    repo.get? type config =
      if resolved.isAnyObject then .ok (some .anyValue)
      else if config.catalog.isMap resolved then .ok (some .anyMap)
      else repo.slots.lookup ⟨config.rules, resolved⟩ := by
  rw [Repository.get?, h]
  rfl

/-- What a call answers is one of the shared schemas or has a slot. -/
theorem Sound.answer_slot (hs : Sound P repo) (hc : call.Within P)
    (h : (call.result repo).1 = .ok (some a)) :
    a.schema.targets = [] ∨ ∃ key, (call.result repo).2.slots.get? key = some (.done a) := by
  cases call with
  | get type config =>
    have h : repo.get? type config = .ok (some a) := h
    cases hresolved : config.catalog.schemaType config.rules type with
    | error e => rw [Repository.get?, hresolved] at h; cases h
    | ok resolved =>
      rw [get?_of_type_ok hresolved] at h
      split at h
      · cases h; exact Or.inl rfl
      · split at h
        · cases h; exact Or.inl rfl
        · exact Or.inr ⟨_, Slots.lookup_eq_some.mp h⟩
  | resolve key =>
    have h : (repo.slots.resolve key).map some = .ok (some a) := h
    cases hr : repo.slots.resolve key with
    | error e => rw [hr] at h; cases h
    | ok b =>
      rw [hr] at h
      cases h
      exact Or.inr ⟨key, Slots.resolve_eq_ok.mp hr⟩
  | getOrAdd fuel type config =>
    rw [Call.result] at h ⊢
    rcases getOrAdd_cases hs hc fuel type with ⟨e, he, -⟩ | ⟨resolved, b, u, -, hu, -, hb⟩
    · rw [he] at h
      cases h
    · rw [hu] at h ⊢
      cases h
      exact Or.inr ⟨_, hb.slot⟩

/-- The references of a schema that a call answers lead to finished schemas. -/
theorem Sound.answer_closed (hs : Sound P repo) (hc : call.Within P)
    (h : (call.result repo).1 = .ok (some a)) : ∀ target ∈ a.schema.targets,
      ∃ b, (call.result repo).2.slots.get? target = some (.done b) := by
  intro target ht
  rcases hs.answer_slot hc h with hnil | ⟨key, hkey⟩
  · rw [hnil] at ht
    cases ht
  · exact (hs.result hc).1.settled.closed hkey ht

/-! ## Placeholders and references -/

/-- Whatever calls came before: no slot is left with a placeholder, what a finished schema refers to
is finished, and no call puts the blame on the repository, not even for a reference of a schema that
was answered long ago. -/
theorem calls_keep_references_closed (calls : List Call) :
    let repo := ({} : Repository).after calls
    (∀ key, repo.slots.get? key ≠ some .building) ∧
    (∀ key a, repo.slots.get? key = some (.done a) →
      ∀ f ∈ a.schema.fields, ∀ target, f.shape.target? = some target →
        ∃ b, repo.slots.get? target = some (.done b)) ∧
    (∀ type config, SparesRepository (repo.get? type config)) ∧
    (∀ fuel type config, SparesRepository ((getOrAdd fuel type config).result repo).1) ∧
    ∀ before call later a, calls = before ++ call :: later →
      (call.result (({} : Repository).after before)).1 = .ok (some a) →
      ∀ f ∈ a.schema.fields, ∀ target, f.shape.target? = some target →
        ∃ b, repo.resolve target = .ok b := by
  intro repo
  have hs : Sound (fun _ => True) repo := sound_after calls
  refine ⟨hs.settled.no_placeholder, fun key a hkey f hf target ht => ?_, hs.get?_spares,
    fun fuel type config => hs.getOrAdd_spares trivial fuel type, ?_⟩
  · exact hs.settled.closed hkey (mem_targets.mpr ⟨f, hf, ht⟩)
  · intro before call later a hcalls hanswer f hf target ht
    have hbefore := sound_after before
    obtain ⟨b, hb⟩ := hbefore.answer_closed call.within_any hanswer target
      (mem_targets.mpr ⟨f, hf, ht⟩)
    have hlater :=
      ((hbefore.result call.within_any).1.after later fun call' _ => call'.within_any).2
    refine ⟨b, Slots.resolve_eq_ok.mpr ?_⟩
    have hrepo : repo = ((call.result (({} : Repository).after before)).2).after later := by
      rw [← after_cons, ← after_append, ← hcalls]
    rw [hrepo]
    exact hlater target _ hb

/-- A class that refers to itself, and one that asks for it before it fails. -/
def selfReferring : Catalog :=
  (Catalog.builtin.addClass
    { name := "Node", properties := [{ name := "next", type := .raw "Node" }] }).addClass
    { name := "Broken",
      properties :=
        [{ name := "node", type := .raw "Node" }, { name := "rest", type := .var "T" }] }

def selfReferringConfig : ApiConfig := .default ⟨"self-referring", selfReferring⟩ {} "Service"

theorem calls_keep_references_closed_node :
    let call := Call.getOrAdd 9 (.raw "Node") selfReferringConfig
    ∃ a f target b, (call.result {}).1 = .ok (some a) ∧ f ∈ a.schema.fields ∧
      f.shape.target? = some target ∧ (({} : Repository).after [call]).resolve target = .ok b := by
  intro call
  have hanswer : (call.result {}).1.toOption.join.any
      (fun a => a.schema.fields.any (·.shape.target?.isSome)) = true := by decide +kernel
  rcases hr : (call.result {}).1 with e | _ | a <;> rw [hr] at hanswer
  · cases hanswer
  · cases hanswer
  · obtain ⟨f, hf, htarget⟩ := List.any_eq_true.mp hanswer
    obtain ⟨target, ht⟩ := Option.isSome_iff_exists.mp htarget
    obtain ⟨-, -, -, -, hlater⟩ := calls_keep_references_closed [call]
    obtain ⟨b, hb⟩ := hlater [] call [] a rfl hr f hf target ht
    exact ⟨a, f, target, b, rfl, hf, ht, hb⟩

/-! ## Failures -/

/-- A call that fails leaves the slots and the indexes as they were, entry by entry. -/
theorem failed_call_changes_nothing (hrepo : Reachable repo) {fuel : Nat} {type : TypeExpr}
    {config : ApiConfig} {e : ApiError} {u : Repository}
    (h : (getOrAdd fuel type config).result repo = (.error e, u)) : u = repo := by
  rcases getOrAdd_cases hrepo.sound trivial fuel type with
    ⟨e', he, -⟩ | ⟨resolved, a, u', -, hu, -, -⟩
  · rw [he] at h
    cases h
    rfl
  · rw [hu] at h
    cases h

theorem failed_call_changes_nothing_broken :
    let repo := ({} : Repository).after [.getOrAdd 9 (.raw "Object") selfReferringConfig]
    ∃ e u, (getOrAdd 9 (.raw "Broken") selfReferringConfig).result repo = (.error e, u) ∧
      u = repo := by
  intro repo
  have hfails : ((getOrAdd 9 (.raw "Broken") selfReferringConfig).result repo).1.isOk = false := by
    decide +kernel
  rcases hr : (getOrAdd 9 (.raw "Broken") selfReferringConfig).result repo with ⟨r, u⟩
  rw [hr] at hfails
  cases r with
  | ok a => cases hfails
  | error e => exact ⟨e, u, rfl, failed_call_changes_nothing ⟨_, rfl⟩ hr⟩

end Repository

end ServiceApi
