import ServiceApi.Document.SchemaJson
import ServiceApi.Proofs.Json.References
import ServiceApi.Proofs.Repository.Index

/-! # The schemas of a document

A document defines what the index of its API holds. Each definition is written with references to
schemas that the repository resolves, and the index holds one of their name. -/

namespace ServiceApi

open Json

variable {α β : Type} {P : String → Prop} {d : Dialect} {idx : OrderedMap String Compiled}
  {repo : Repository}

theorem ok_of_bind {x : Except ApiError α} {f : α → Except ApiError β} {b : β}
    (h : x >>= f = .ok b) : ∃ a, x = .ok a ∧ f a = .ok b := by
  cases x with
  | error e => cases h
  | ok a => exact ⟨a, rfl, h⟩

/-- Every result comes from an item, and every item has a result. -/
theorem mapM_ok {f : α → Except ApiError β} : ∀ {as : List α} {bs : List β},
    as.mapM f = .ok bs →
      (∀ b ∈ bs, ∃ a ∈ as, f a = .ok b) ∧ ∀ a ∈ as, ∃ b ∈ bs, f a = .ok b
  | [], bs, h => by
    cases h
    exact ⟨fun _ hb => (List.not_mem_nil hb).elim, fun _ ha => (List.not_mem_nil ha).elim⟩
  | a :: as, bs, h => by
    rw [List.mapM_cons] at h
    obtain ⟨b, hb, h⟩ := ok_of_bind h
    obtain ⟨rest, hrest, h⟩ := ok_of_bind h
    cases h
    obtain ⟨hfrom, hto⟩ := mapM_ok hrest
    refine ⟨fun b' hb' => ?_, fun a' ha' => ?_⟩
    · rcases List.mem_cons.mp hb' with rfl | hb'
      · exact ⟨a, List.mem_cons_self, hb⟩
      · obtain ⟨a', ha', h'⟩ := hfrom b' hb'
        exact ⟨a', List.mem_cons_of_mem a ha', h'⟩
    · rcases List.mem_cons.mp ha' with rfl | ha'
      · exact ⟨b, List.mem_cons_self, hb⟩
      · obtain ⟨b', hb', h'⟩ := hto a' ha'
        exact ⟨b', List.mem_cons_of_mem b hb', h'⟩

/-- A reference to the schema of a type of `M`. -/
def RefersFor (d : Dialect) (slots : Slots) (M : SchemaKey → Prop) (ref : String) : Prop :=
  ∃ key a, M key ∧ slots.get? key = some (.done a) ∧ a.schema.isAny = false ∧
    ref = d.pointer a.schema.name

theorem RefersFor.mono {slots : Slots} {M M' : SchemaKey → Prop} {ref : String}
    (h : RefersFor d slots M ref) (hM : ∀ key, M key → M' key) : RefersFor d slots M' ref := by
  obtain ⟨key, a, hkey, ha⟩ := h
  exact ⟨key, a, hM key hkey, ha⟩

@[simp] theorem fieldsWithin_textField (name : String) (text : Option String) :
    FieldsWithin P (textField name text) ↔ ∀ t ∈ text, name = "$ref" → P t := by
  cases text <;> simp [textField]

@[simp] theorem fieldsWithin_flagField (name : String) (holds : Bool) :
    FieldsWithin P (flagField name holds) := by
  cases holds <;> simp [flagField]

@[simp] theorem fieldsWithin_scalar (d : Dialect) (t : FieldType) :
    FieldsWithin P (d.scalar t) := by
  cases d <;> simp [Dialect.scalar]

theorem fieldsWithin_untyped (d : Dialect) : FieldsWithin P d.untyped := by
  cases d <;> simp [Dialect.untyped]

/-- Where a schema may be referred to it may be used. -/
theorem fieldsWithin_use {s : Schema} (h : s.isAny = false → P (d.pointer s.name)) :
    FieldsWithin P (d.use s) := by
  rw [Dialect.use]
  split
  · exact fieldsWithin_untyped d
  · rename_i hany
    rw [Dialect.reference, fieldsWithin_cons, fieldWithin_str]
    exact ⟨fun _ => h (Bool.not_eq_true _ ▸ hany), fieldsWithin_nil⟩

/-- What is finished under `target` may be referred to. -/
def MayUse (d : Dialect) (repo : Repository) (P : String → Prop) (target : SchemaKey) : Prop :=
  ∀ a, repo.slots.get? target = some (.done a) → a.schema.isAny = false →
    P (d.pointer a.schema.name)

theorem fieldsWithin_shape : ∀ {shape : FieldShape} {fields : List (String × Json)},
    (∀ target, shape.target? = some target → MayUse d repo P target) →
    shape.fields d repo = .ok fields → FieldsWithin P fields
  | .scalar t, _, _, h => by
    cases h
    exact fieldsWithin_scalar d t
  | .object target, _, hr, h => by
    obtain ⟨a, ha, h⟩ := ok_of_bind h
    cases h
    exact fieldsWithin_use (hr target rfl a (Slots.resolve_eq_ok.mp ha))
  | .enum target, _, hr, h => by
    obtain ⟨a, ha, h⟩ := ok_of_bind h
    cases h
    exact fieldsWithin_use (hr target rfl a (Slots.resolve_eq_ok.mp ha))
  | .array item, _, hr, h => by
    obtain ⟨inner, hinner, h⟩ := ok_of_bind h
    cases h
    have hr : ∀ target, item.target? = some target → MayUse d repo P target := hr
    simpa using fieldsWithin_shape hr hinner

theorem fieldWithin_field {f : Field} {v : Json} (name : String)
    (hr : ∀ target, f.shape.target? = some target → MayUse d repo P target)
    (h : f.toJson d repo = .ok v) : FieldWithin P name v := by
  obtain ⟨shape, hshape, h⟩ := ok_of_bind h
  cases h
  simpa using fieldsWithin_shape hr hshape

theorem fieldsWithin_objectFields {s : Schema} {fields : List (String × Json)}
    (hr : ∀ target ∈ s.targets, MayUse d repo P target) (h : s.objectFields d repo = .ok fields) :
    FieldsWithin P fields := by
  unfold Schema.objectFields at h
  split at h
  · cases h
    exact fieldsWithin_flagField _ _
  · obtain ⟨properties, hps, h⟩ := ok_of_bind h
    cases h
    have hproperties : FieldsWithin P properties := by
      intro e he
      obtain ⟨f, hf, hfe⟩ := (mapM_ok hps).1 e he
      obtain ⟨v, hv, hfe⟩ := ok_of_bind hfe
      cases hfe
      exact fieldWithin_field f.name
        (fun target ht => hr target (Schema.mem_targets.mpr ⟨f, hf, ht⟩)) hv
    simp [hproperties]

theorem fieldWithin_schema {s : Schema} {v : Json} (name : String)
    (hr : ∀ target ∈ s.targets, MayUse d repo P target) (h : s.toJson d repo = .ok v) :
    FieldWithin P name v := by
  unfold Schema.toJson at h
  split at h
  · cases h
    exact (fieldWithin_obj _ _).mpr (fieldsWithin_untyped d)
  · have henum : FieldsWithin P (s.enumFields d) := by simp [Schema.enumFields]
    by_cases hkind : s.kind = .object
    · rw [if_pos hkind] at h
      obtain ⟨own, hown, h⟩ := ok_of_bind h
      cases h
      simp [fieldsWithin_objectFields hr hown, henum]
    · rw [if_neg hkind] at h
      cases h
      simp [henum]

/-! ## The section of definitions -/

theorem mem_definitions {s : Schema} {key : ApiKey} : s ∈ repo.definitions key ↔
    ∃ e ∈ (repo.indexOf key.withoutRoot).entries, e.2.schema = s ∧ s.isAny = false := by
  rw [Repository.definitions, List.mem_mergeSort, List.mem_filter, Repository.schemasOf,
    OrderedMap.values]
  simp only [List.map_map, List.mem_map, Function.comp_apply, Bool.not_eq_true']
  constructor
  · rintro ⟨⟨e, he, hs⟩, hany⟩
    exact ⟨e, he, hs, hany⟩
  · rintro ⟨e, he, hs, hany⟩
    exact ⟨⟨e, he, hs⟩, hany⟩

theorem IndexedUpTo.eq_of_name {slots : Slots} {pending : List Compiled}
    (h : IndexedUpTo slots pending idx) {e e' : String × Compiled} (he : e ∈ idx.entries)
    (he' : e' ∈ idx.entries) (hname : e.2.schema.name = e'.2.schema.name) : e = e' := by
  have hkey : e.1 = e'.1 := (h.named e he).1.trans (hname.trans (h.named e' he').1.symm)
  have hvalue := OrderedMap.mem_entries_iff.mp he
  rw [hkey, OrderedMap.mem_entries_iff.mp he'] at hvalue
  exact Prod.ext hkey (Option.some.inj hvalue.symm)

/-- The types that fields of the schemas in an index refer to. -/
def FieldTarget (idx : OrderedMap String Compiled) (key : SchemaKey) : Prop :=
  ∃ e ∈ idx.entries, key ∈ e.2.schema.targets

/-- The definitions of an API are the renderings of the schemas in its index, by their names, and
refer to what their fields refer to. -/
theorem definitionsJson_ok {key : ApiKey} {v : Json}
    (hidx : IndexedUpTo repo.slots [] (repo.indexOf key.withoutRoot))
    (h : repo.definitionsJson d key = .ok v) :
    (∀ name,
      FieldWithin (RefersFor d repo.slots (FieldTarget (repo.indexOf key.withoutRoot))) name v) ∧
      ∀ e ∈ (repo.indexOf key.withoutRoot).entries, ∃ json, e.2.schema.toJson d repo = .ok json ∧
        v.fields.lookup e.1 = some json := by
  obtain ⟨entries, hentries, h⟩ := ok_of_bind h
  cases h
  obtain ⟨hfrom, hto⟩ := mapM_ok hentries
  constructor
  · refine fun name => fieldWithin_objOf name fun entry hentry => ?_
    obtain ⟨s, hs, hse⟩ := hfrom entry hentry
    obtain ⟨v, hv, hse⟩ := ok_of_bind hse
    cases hse
    obtain ⟨e, he, rfl, -⟩ := mem_definitions.mp hs
    exact fieldWithin_schema _ (fun target ht a ha hany => ⟨target, a, ⟨e, he, ht⟩,
      ha, hany, rfl⟩) hv
  · intro e he
    obtain ⟨hnamed, hany⟩ := hidx.named e he
    obtain ⟨entry, hentry, hse⟩ := hto e.2.schema (mem_definitions.mpr ⟨e, he, rfl, hany⟩)
    obtain ⟨json, hjson, hse⟩ := ok_of_bind hse
    cases hse
    refine ⟨json, hjson, ?_⟩
    rw [hnamed]
    refine lookup_objOf hentry fun json' hjson' => ?_
    -- Whatever else has the name is the same schema.
    obtain ⟨s', hs', hse'⟩ := hfrom _ hjson'
    obtain ⟨v', hv', hse'⟩ := ok_of_bind hse'
    obtain ⟨e', he', rfl, -⟩ := mem_definitions.mp hs'
    have hpair : (e'.2.schema.name, v') = (e.2.schema.name, json') := Except.ok.inj hse'
    obtain ⟨hname, rfl⟩ := Prod.mk.inj hpair
    cases hidx.eq_of_name he' he hname
    rw [hjson] at hv'
    exact (Except.ok.inj hv').symm

end ServiceApi
