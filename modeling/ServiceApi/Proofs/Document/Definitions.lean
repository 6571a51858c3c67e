import ServiceApi.Proofs.Document.Schemas
import ServiceApi.Proofs.List
import ServiceApi.Proofs.OrderedMap
import ServiceApi.Proofs.Repository.Alike

/-! # The same definitions

The definitions of an API are read off its index, in the order of the names, and off the slots that
the fields of the schemas in it refer to. Where two repositories agree on these, so do the
definitions, whatever the order in which the index was filled. -/

namespace ServiceApi

variable {d : Dialect} {repo repo' : Repository}

/-! ## What a definition reads -/

theorem FieldShape.fields_congr : ∀ {shape : FieldShape},
    (∀ target, shape.target? = some target → repo.resolve target = repo'.resolve target) →
    shape.fields d repo = shape.fields d repo'
  | .scalar _, _ => rfl
  | .object target, h => by rw [FieldShape.fields, FieldShape.fields, h target rfl]
  | .enum target, h => by rw [FieldShape.fields, FieldShape.fields, h target rfl]
  | .array item, h => by
    have hitem : item.fields d repo = item.fields d repo' := FieldShape.fields_congr h
    simp only [FieldShape.fields, hitem]

theorem Field.toJson_congr {f : Field}
    (h : ∀ target, f.shape.target? = some target → repo.resolve target = repo'.resolve target) :
    f.toJson d repo = f.toJson d repo' := by
  rw [Field.toJson, Field.toJson, FieldShape.fields_congr h]

/-- A definition is written with what the fields of the schema refer to. -/
theorem Schema.toJson_congr {s : Schema}
    (h : ∀ target ∈ s.targets, repo.resolve target = repo'.resolve target) :
    s.toJson d repo = s.toJson d repo' := by
  have hfields : s.objectFields d repo = s.objectFields d repo' := by
    unfold Schema.objectFields
    rw [mapM_congr fun f hf => ?_]
    rw [Field.toJson_congr fun target ht => h target (Schema.mem_targets.mpr ⟨f, hf, ht⟩)]
  unfold Schema.toJson
  rw [hfields]

/-! ## Which definitions there are -/

theorem definitions_eq {key : ApiKey}
    (hidx : IndexedUpTo repo.slots [] (repo.indexOf key.withoutRoot))
    (h : ∀ name, (repo.indexOf key.withoutRoot).get? name =
      (repo'.indexOf key.withoutRoot).get? name) :
    repo.definitions key = repo'.definitions key := by
  have hperm : (((repo.schemasOf key).map (·.schema)).filter (!·.isAny)).Perm
      (((repo'.schemasOf key).map (·.schema)).filter (!·.isAny)) :=
    (((OrderedMap.perm_entries h).map Prod.snd).map _).filter _
  -- Names differ within an index.
  refine mergeSort_eq_of_perm Schema.name hperm fun a ha b hb hname => ?_
  obtain ⟨e, he, rfl, -⟩ := mem_definitions.mp (List.mem_mergeSort.mpr ha)
  obtain ⟨e', he', rfl, -⟩ := mem_definitions.mp (List.mem_mergeSort.mpr hb)
  rw [hidx.eq_of_name he he' hname]

/-- Where the index is the same, a used repository defines what a new one does. -/
theorem Repository.Alike.definitionsJson_eq {D : SerializationRules → Catalog → Prop}
    {old : OrderedMap String Compiled} {cold warm : Repository} {key : ApiKey}
    (h : Alike D key.withoutRoot old cold warm)
    (hold : ∀ name a, old.get? name = some a →
      (cold.indexOf key.withoutRoot).get? name = some a) :
    warm.definitionsJson d key = cold.definitionsJson d key := by
  have hidx := h.sound.indexed key.withoutRoot
  have hsame : ∀ name, (cold.indexOf key.withoutRoot).get? name =
      (warm.indexOf key.withoutRoot).get? name := by
    intro name
    rw [h.index name]
    cases hname : old.get? name with
    | none => rw [Option.none_or]
    | some a => rw [Option.some_or, hold name a hname]
  unfold Repository.definitionsJson
  rw [← definitions_eq hidx hsame, mapM_congr fun s hs => ?_]
  obtain ⟨e, he, rfl, -⟩ := mem_definitions.mp hs
  obtain ⟨key', hkey'⟩ := hidx.kept e he
  rw [Schema.toJson_congr fun target ht => ?_]
  obtain ⟨a, ha⟩ := h.sound.settled.closed hkey' ht
  have hcold : cold.resolve target = .ok a := Slots.resolve_eq_ok.mpr ha
  rw [hcold]
  exact Slots.resolve_eq_ok.mpr (h.keepsSlots target _ ha)

end ServiceApi
