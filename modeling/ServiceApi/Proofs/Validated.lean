import ServiceApi.Proofs.Document.Schemas
import ServiceApi.Proofs.OrderedMap
import ServiceApi.Validate

/-! # What validation ensures

Configurations that pass have one name and one version. Their active methods have names of their
own, and signatures of their own: no two have both the HTTP method and the path, up to what
placeholders are called. -/

namespace ServiceApi

variable {fuel : Nat} {seen seen' : Validate.Seen} {m : MethodScope}

theorem bind_eq_ok {α β : Type} {x : Except ApiError α} {f : α → Except ApiError β} {a : α} {b : β}
    (hx : x = .ok a) (hf : f a = .ok b) : (x >>= f) = .ok b := by
  rw [hx]
  exact hf

namespace MethodScope

/-- What a request to the method looks like. -/
def signature (m : MethodScope) : String × String :=
  (m.method.httpMethod, Path.blanked m.method.path)

end MethodScope

namespace Validate

/-- What is noted of a method that is let through. -/
def Seen.note (seen : Seen) (m : MethodScope) : Seen where
  names := (m.fullName, m.method.endpoint.qualifiedName) :: seen.names
  paths := (m.signature, m.method.endpoint.qualifiedName) :: seen.paths

/-- A method is let through if it passes and is new in both respects, and then it is noted. -/
theorem uniqueMethod_eq_ok_iff : uniqueMethod fuel seen m = .ok seen' ↔
    (isMethodName m.method.name = true ∧ method fuel m = .ok ()) ∧
      m.fullName ∉ seen.names.map Prod.fst ∧ m.signature ∉ seen.paths.map Prod.fst ∧
        seen' = seen.note m := by
  have hpaths : seen.paths.lookup (m.method.httpMethod, Path.blanked m.method.path) = none ↔
      m.signature ∉ seen.paths.map Prod.fst := by
    simp only [List.lookup_eq_none_iff, bne_iff_ne, List.mem_map, not_exists, not_and,
      MethodScope.signature]
    exact forall₂_congr fun _ _ => ne_comm
  constructor
  · intro h
    unfold uniqueMethod at h
    dsimp only at h
    split at h
    · cases h
    · rename_i hname
      split at h
      · cases h
      · rename_i hnew
        split at h
        · cases h
        · rename_i hpath
          obtain ⟨⟨⟩, hmethod, h⟩ := ok_of_bind h
          cases h
          exact ⟨⟨by simpa using hname, hmethod⟩, Entries.lookup_eq_none_iff.mp hnew,
            hpaths.mp hpath, rfl⟩
  · rintro ⟨⟨hname, hmethod⟩, hnew, hpath, rfl⟩
    simp only [uniqueMethod, hname, Entries.lookup_eq_none_iff.mpr hnew, hpaths.mpr hpath, hmethod]
    rfl

/-- Items that are noted one by one differ, and are new, if each is new when its turn comes. -/
theorem nodup_disjoint_cons {α : Type} {a : α} {as seen : List α} :
    (a :: as).Nodup ∧ (a :: as).Disjoint seen ↔ a ∉ seen ∧ as.Nodup ∧ as.Disjoint (a :: seen) := by
  rw [List.nodup_cons, List.disjoint_cons_left, List.disjoint_cons_right]
  tauto

/-- Methods are let through one after the other if they pass, differ in both respects, and are
new. -/
theorem foldlM_uniqueMethod_eq_ok_iff : ∀ (ms : List MethodScope) (seen : Seen),
    (∃ seen', ms.foldlM (uniqueMethod fuel) seen = .ok seen') ↔
      (∀ m ∈ ms, isMethodName m.method.name = true ∧ method fuel m = .ok ()) ∧
        ((ms.map (·.fullName)).Nodup ∧ (ms.map (·.fullName)).Disjoint (seen.names.map Prod.fst)) ∧
        ((ms.map (·.signature)).Nodup ∧ (ms.map (·.signature)).Disjoint (seen.paths.map Prod.fst))
  | [], seen => by simp [pure, Except.pure]
  | m :: ms, seen => by
    have hstep : (∃ seen', (m :: ms).foldlM (uniqueMethod fuel) seen = .ok seen') ↔
        ∃ next, uniqueMethod fuel seen m = .ok next ∧
          ∃ seen', ms.foldlM (uniqueMethod fuel) next = .ok seen' := by
      rw [List.foldlM_cons]
      constructor
      · rintro ⟨seen', h⟩
        obtain ⟨next, hm, h⟩ := ok_of_bind h
        exact ⟨next, hm, seen', h⟩
      · rintro ⟨next, hm, seen', h⟩
        exact ⟨seen', bind_eq_ok hm h⟩
    -- Only the smaller list, or the rewriting would not end.
    have ih (next : Seen) := foldlM_uniqueMethod_eq_ok_iff ms next
    rw [hstep, List.forall_mem_cons, List.map_cons, List.map_cons, nodup_disjoint_cons,
      nodup_disjoint_cons]
    simp only [uniqueMethod_eq_ok_iff, ih]
    constructor
    · rintro ⟨next, ⟨hpass, hname, hpath, rfl⟩, hall, hnames, hpaths⟩
      exact ⟨⟨hpass, hall⟩, ⟨hname, hnames⟩, hpath, hpaths⟩
    · rintro ⟨⟨hpass, hall⟩, ⟨hname, hnames⟩, hpath, hpaths⟩
      exact ⟨_, ⟨hpass, hname, hpath, rfl⟩, hall, hnames, hpaths⟩

end Validate

/-! ## Agreement -/

theorem differ_eq_nil_iff {α : Type} [BEq α] {property : String} {toJson : α → Json} {a b : α} :
    differ property toJson a b = [] ↔ (a == b) = true := by
  simp [differ]

namespace ApiConfig

variable {a b c : ApiConfig}

/-- The settings of the API as a whole that are compared as they stand, which are all but the two
maps. -/
def common (a : ApiConfig) : ApiConfig :=
  { a with
    shared := ⟨"", {}⟩
    issuers := .empty
    issuerAudiences := .empty
    classConfig := { serviceClass := "" } }

/-- Nothing is found that the configurations differ on. -/
def Agrees (a b : ApiConfig) : Prop := a.inconsistencies b = []

theorem agrees_iff : a.Agrees b ↔ a.common = b.common ∧ (a.issuers == b.issuers) = true ∧
    (a.issuerAudiences == b.issuerAudiences) = true := by
  unfold Agrees inconsistencies
  rw [common, common, mk.injEq]
  simp only [List.append_eq_nil_iff, differ_eq_nil_iff, and_assoc, beq_iff_eq, true_and, and_true]
  constructor <;> intro h <;> simp only [h, and_self]

theorem Agrees.refl (a : ApiConfig) : a.Agrees a := agrees_iff.mpr ⟨rfl, BEq.rfl, BEq.rfl⟩

theorem Agrees.symm (h : a.Agrees b) : b.Agrees a := by
  obtain ⟨hcommon, hissuers, haudiences⟩ := agrees_iff.mp h
  exact agrees_iff.mpr ⟨hcommon.symm, BEq.symm hissuers, BEq.symm haudiences⟩

theorem Agrees.trans (h : a.Agrees b) (h' : b.Agrees c) : a.Agrees c := by
  obtain ⟨hcommon, hissuers, haudiences⟩ := agrees_iff.mp h
  obtain ⟨hcommon', hissuers', haudiences'⟩ := agrees_iff.mp h'
  exact agrees_iff.mpr ⟨hcommon.trans hcommon', BEq.trans hissuers hissuers',
    BEq.trans haudiences haudiences'⟩

theorem Agrees.name (h : a.Agrees b) : a.name = b.name := by
  have hcommon : a.common.name = b.common.name := by rw [(agrees_iff.mp h).1]
  exact hcommon

theorem Agrees.version (h : a.Agrees b) : a.version = b.version := by
  have hcommon : a.common.version = b.common.version := by rw [(agrees_iff.mp h).1]
  exact hcommon

end ApiConfig

/-! ## What passes -/

theorem exists_of_isOk {α : Type} {r : Except ApiError α} (h : r.isOk = true) : ∃ a, r = .ok a := by
  cases r with
  | error e => cases h
  | ok a => exact ⟨a, rfl⟩

theorem forM_eq_ok_iff {α : Type} {f : α → Except ApiError Unit} : ∀ {as : List α},
    as.forM f = .ok () ↔ ∀ a ∈ as, f a = .ok ()
  | [] => ⟨fun _ _ ha => (List.not_mem_nil ha).elim, fun _ => rfl⟩
  | a :: as => by
    have hcons : (a :: as).forM f = (f a >>= fun _ => as.forM f) := rfl
    rw [hcons, List.forall_mem_cons, ← forM_eq_ok_iff]
    refine ⟨fun h => ?_, fun ⟨ha, has⟩ => bind_eq_ok ha has⟩
    obtain ⟨⟨⟩, ha, has⟩ := ok_of_bind h
    exact ⟨ha, has⟩

/-- The error is about the configurations as a group. -/
def ApiError.isOfGroup : ApiError → Bool
  | inconsistentConfigs .. | invalidApiName .. => true
  | _ => false

namespace Validate

variable {configs : List ApiConfig}

/-- What it takes for configurations to pass, said of each, or of any two of them. -/
structure Accepted (fuel : Nat) (configs : List ApiConfig) : Prop where
  agree : ∀ a ∈ configs, ∀ b ∈ configs, a.Agrees b
  name : ∀ a ∈ configs, a.name = internalApiName ∨ isApiName a.name = true
  methods : ∀ m ∈ activeMethods configs, isMethodName m.method.name = true ∧ method fuel m = .ok ()
  names : ((activeMethods configs).map (·.fullName)).Nodup
  signatures : ((activeMethods configs).map (·.signature)).Nodup

/-- Comparing with the first and naming the first is enough: all the others agree with it. -/
theorem accepted_cons_iff {first : ApiConfig} {others : List ApiConfig} :
    Accepted fuel (first :: others) ↔ (∀ other ∈ others, first.Agrees other) ∧
      (first.name = internalApiName ∨ isApiName first.name = true) ∧
      ∃ seen, (activeMethods (first :: others)).foldlM (uniqueMethod fuel) {} = .ok seen := by
  rw [foldlM_uniqueMethod_eq_ok_iff]
  constructor
  · intro h
    have hfirst : first ∈ first :: others := List.mem_cons_self
    refine ⟨fun other hother => h.agree first hfirst other (List.mem_cons_of_mem _ hother),
      h.name first hfirst,
      h.methods, ⟨h.names, List.disjoint_nil_right _⟩, h.signatures, List.disjoint_nil_right _⟩
  · rintro ⟨hagree, hname, hmethods, ⟨hnames, -⟩, hsignatures, -⟩
    have hall : ∀ a ∈ first :: others, first.Agrees a :=
      List.forall_mem_cons.mpr ⟨.refl first, hagree⟩
    refine ⟨fun a ha b hb => (hall a ha).symm.trans (hall b hb), fun a ha => ?_, hmethods,
      hnames, hsignatures⟩
    rw [← (hall a ha).name]
    exact hname

/-- How a configuration is compared with the first one. -/
def agreement (first other : ApiConfig) : Except ApiError Unit := do
  let found := first.inconsistencies other
  if !found.isEmpty then throw (.inconsistentConfigs first.key.text found)

theorem agreement_eq_ok_iff {first other : ApiConfig} :
    agreement first other = .ok () ↔ first.Agrees other := by
  unfold agreement ApiConfig.Agrees
  cases first.inconsistencies other with
  | nil => exact iff_of_true rfl rfl
  | cons => exact iff_of_false nofun nofun

theorem agreement_failsBy (first other : ApiConfig) :
    FailsBy ApiError.isOfGroup (agreement first other) := by
  unfold agreement
  dsimp only
  split
  · exact .error rfl
  · exact .ok _

/-- Configurations are refused as a group unless they agree and are named, and then all depends on
their methods. -/
theorem configs_cons_cases (fuel : Nat) (first : ApiConfig) (others : List ApiConfig) :
    (¬ ((∀ other ∈ others, first.Agrees other) ∧
      (first.name = internalApiName ∨ isApiName first.name = true)) ∧
      ∃ e, e.isOfGroup = true ∧ Validate.configs fuel (first :: others) = .error e) ∨
    ((∀ other ∈ others, first.Agrees other) ∧
      (first.name = internalApiName ∨ isApiName first.name = true)) ∧
      Validate.configs fuel (first :: others) =
        ((activeMethods (first :: others)).foldlM (uniqueMethod fuel) {}).map fun _ => () := by
  have hconfigs : Validate.configs fuel (first :: others) = (do
      others.forM (agreement first)
      if first.name != internalApiName && !isApiName first.name then
        throw (.invalidApiName first.name)
      let _ ← (activeMethods (first :: others)).foldlM (uniqueMethod fuel) {}
      return ()) := rfl
  have hagree : others.forM (agreement first) = .ok () ↔ ∀ other ∈ others, first.Agrees other := by
    rw [forM_eq_ok_iff]
    exact forall₂_congr fun _ _ => agreement_eq_ok_iff
  rw [hconfigs]
  cases hforM : others.forM (agreement first) with
  | error e =>
    refine .inl ⟨fun h => ?_, e, FailsBy.forM (agreement_failsBy first) others e hforM, rfl⟩
    cases hforM.symm.trans (hagree.mpr h.1)
  | ok =>
    have hagree := hagree.mp hforM
    by_cases hname : (first.name != internalApiName && !isApiName first.name) = true
    · refine .inl ⟨fun h => ?_, .invalidApiName first.name, rfl, by rw [if_pos hname]; rfl⟩
      rcases h.2 with h | h <;> simp [h] at hname
    · refine .inr ⟨⟨hagree, ?_⟩, ?_⟩
      · by_cases hinternal : first.name = internalApiName
        · exact .inl hinternal
        · exact .inr (by simpa [hinternal] using hname)
      · rw [if_neg hname]
        cases (activeMethods (first :: others)).foldlM (uniqueMethod fuel) {} <;> rfl

theorem configs_eq_ok_iff : Validate.configs fuel configs = .ok () ↔ Accepted fuel configs := by
  cases configs with
  | nil => exact ⟨fun _ => by constructor <;> simp [activeMethods], fun _ => rfl⟩
  | cons first others =>
    rw [accepted_cons_iff, ← and_assoc]
    rcases configs_cons_cases fuel first others with ⟨hnot, e, -, he⟩ | ⟨hgroup, hmethods⟩
    · rw [he]
      exact iff_of_false nofun fun h => hnot h.1
    · rw [hmethods, and_iff_right hgroup]
      cases (activeMethods (first :: others)).foldlM (uniqueMethod fuel) {} with
      | error e => exact iff_of_false nofun nofun
      | ok seen => exact iff_of_true rfl ⟨seen, rfl⟩

/-- The name of an API that passes has no `-`. -/
theorem not_mem_name_of_ok {first : ApiConfig} {others : List ApiConfig}
    (h : Validate.configs fuel (first :: others) = .ok ()) : '-' ∉ first.name.toList := by
  rcases (configs_eq_ok_iff.mp h).name first List.mem_cons_self with hname | hname
  · rw [hname]
    decide
  · rw [isApiName] at hname
    split at hname
    · cases hname
    · rename_i c cs hcs
      obtain ⟨hlower, hall⟩ := Bool.and_eq_true_iff.mp hname
      rw [hcs]
      rintro (_ | ⟨_, hmem⟩)
      · cases hlower
      · exact absurd (List.all_eq_true.mp hall '-' hmem) (by decide)

/-- Configurations that pass are of one API, and their active methods pass one after the other. -/
theorem configs_ok (h : Validate.configs fuel configs = .ok ()) :
    (∀ a ∈ configs, ∀ b ∈ configs, a.name = b.name ∧ a.version = b.version) ∧
      ∃ seen, (activeMethods configs).foldlM (uniqueMethod fuel) {} = .ok seen := by
  have haccepted := configs_eq_ok_iff.mp h
  refine ⟨fun a ha b hb => ?_, (foldlM_uniqueMethod_eq_ok_iff _ _).mpr ⟨haccepted.methods,
    ⟨haccepted.names, List.disjoint_nil_right _⟩, haccepted.signatures, List.disjoint_nil_right _⟩⟩
  have hagree := haccepted.agree a ha b hb
  exact ⟨hagree.name, hagree.version⟩

/-- Each active method of configurations that pass has passed. -/
theorem method_of_ok (h : Validate.configs fuel configs = .ok ()) (hm : m ∈ activeMethods configs) :
    method fuel m = .ok () := ((configs_eq_ok_iff.mp h).methods m hm).2

end Validate

/-- Configurations that passed validation. -/
structure Validated (configs : List ApiConfig) : Prop where
  name : ∀ a ∈ configs, ∀ b ∈ configs, a.name = b.name
  names : ((activeMethods configs).map (·.fullName)).Nodup
  signatures : ((activeMethods configs).map (·.signature)).Nodup

theorem validated_of_ok {configs : List ApiConfig} (h : Validate.configs fuel configs = .ok ()) :
    Validated configs := by
  have haccepted := Validate.configs_eq_ok_iff.mp h
  exact ⟨fun a ha b hb => (haccepted.agree a ha b hb).name, haccepted.names, haccepted.signatures⟩

end ServiceApi
