import Mathlib.Data.List.Induction
import Mathlib.Data.String.Basic
import ServiceApi.Proofs.List
import ServiceApi.Proofs.Schema.Plan

/-! # The shapes of fields

Which shape the values of a type have follows from the catalog and the serialization rules alone:
what each type becomes under its transformer travels in one way, and items are looked at in the same
way again. A plan for the fields of a bean has one field for each property, of the shape of its
type; of the properties with one name the last counts. -/

namespace ServiceApi

namespace Schema

variable {c : Catalog} {rules : SerializationRules} {fuel : Nat} {key : SchemaKey}
  {t resolved : TypeExpr} {shape : FieldShape}

/-- Values of `t` travel in this shape. Objects and enumerations refer to the schema of what they
become. -/
inductive HasShape (c : Catalog) (rules : SerializationRules) : TypeExpr → FieldShape → Prop
  | array {t resolved item : TypeExpr} {shape : FieldShape} : c.schemaType rules t = .ok resolved →
      c.fieldType? resolved = some .array → c.arrayItem? resolved = some item →
        HasShape c rules item shape →
      HasShape c rules t (.array shape)
  | object {t resolved : TypeExpr} : c.schemaType rules t = .ok resolved →
      c.fieldType? resolved = some .object → HasShape c rules t (.object ⟨rules, resolved⟩)
  | enum {t resolved : TypeExpr} : c.schemaType rules t = .ok resolved →
      c.fieldType? resolved = some .enum → HasShape c rules t (.enum ⟨rules, resolved⟩)
  | scalar {t resolved : TypeExpr} {type : FieldType} : c.schemaType rules t = .ok resolved →
      c.fieldType? resolved = some type → type ≠ .array → type ≠ .object → type ≠ .enum →
      HasShape c rules t (.scalar type)

/-- What the type becomes travels as the shape says. -/
theorem HasShape.exists_fieldType (h : HasShape c rules t shape) :
    ∃ resolved, c.schemaType rules t = .ok resolved ∧ c.fieldType? resolved = some shape.type := by
  cases h with
  | array hr hft _ _ => exact ⟨_, hr, hft⟩
  | object hr hft => exact ⟨_, hr, hft⟩
  | enum hr hft => exact ⟨_, hr, hft⟩
  | scalar hr hft _ _ _ => exact ⟨_, hr, hft⟩

theorem hasShape_of_shapeOf {name : String} : ∀ {fuel : Nat} {t : TypeExpr} {shape : FieldShape},
    (shapeOf c rules name fuel t).outcome = .ok shape → HasShape c rules t shape
  | 0, _, _, h => by cases h
  | fuel + 1, t, shape, h => by
    unfold shapeOf at h
    obtain ⟨resolved, hr, h, -⟩ := Plan.ok_of_bind h
    have hr : c.schemaType rules t = .ok resolved := hr
    dsimp only at h
    split at h
    · cases h
    · split at h
      · cases h
      · obtain ⟨inner, hinner, h, -⟩ := Plan.ok_of_bind h
        cases h
        exact .array hr ‹_› ‹_› (hasShape_of_shapeOf hinner)
    · cases h
      exact .object hr ‹_›
    · cases h
      exact .enum hr ‹_›
    · cases h
      exact .scalar hr ‹_› ‹_› ‹_› ‹_›

/-- With fuel enough the plan comes to every shape that a type has. -/
theorem HasShape.shapeOf (h : HasShape c rules t shape) (name : String) :
    ∃ n, ∀ fuel ≥ n, (shapeOf c rules name (fuel + 1) t).outcome = .ok shape := by
  have hlift {t resolved : TypeExpr} (hr : c.schemaType rules t = .ok resolved) :
      (liftM (c.schemaType rules t) : Plan TypeExpr).outcome = .ok resolved := hr
  induction h with
  | array hr hft hitem _ ih =>
    obtain ⟨n, hn⟩ := ih
    refine ⟨n + 1, fun fuel hfuel => ?_⟩
    obtain ⟨fuel, rfl⟩ : ∃ k, fuel = k + 1 := ⟨fuel - 1, by omega⟩
    unfold Schema.shapeOf
    rw [Plan.bind_of_ok _ (hlift hr)]
    simp only [hft, hitem]
    rw [Plan.bind_of_ok _ (hn fuel (by omega))]
    rfl
  | object hr hft | enum hr hft | scalar hr hft _ _ _ =>
    refine ⟨0, fun fuel _ => ?_⟩
    unfold Schema.shapeOf
    rw [Plan.bind_of_ok _ (hlift hr)]
    simp only [hft]
    rfl

theorem HasShape.unique {shape' : FieldShape} (h : HasShape c rules t shape)
    (h' : HasShape c rules t shape') : shape = shape' := by
  obtain ⟨n, hn⟩ := h.shapeOf ""
  obtain ⟨n', hn'⟩ := h'.shapeOf ""
  have heq := (hn (max n n') (Nat.le_max_left n n')).symm.trans (hn' _ (Nat.le_max_right n n'))
  exact Except.ok.inj heq

/-! ## The fields of a bean -/

/-- The field says what is asked for a property, and has the shape of its values. -/
structure FieldOf (c : Catalog) (rules : SerializationRules) (p : ResolvedProperty)
    (f : Field) : Prop where
  name : f.name = p.name
  description : f.description = p.description
  required : f.required = p.required
  shape : HasShape c rules p.type f.shape

theorem fieldsOf_ok : ∀ {ps : List ResolvedProperty} {fields : List Field},
    (fieldsOf c rules fuel ps).outcome = .ok fields → List.Forall₂ (FieldOf c rules) ps fields
  | [], _, h => by
    cases h
    exact .nil
  | p :: ps, _, h => by
    obtain ⟨shape, hshape, h, -⟩ := Plan.ok_of_bind h
    obtain ⟨rest, hrest, h, -⟩ := Plan.ok_of_bind h
    cases h
    exact .cons ⟨rfl, rfl, rfl, hasShape_of_shapeOf hshape⟩ (fieldsOf_ok hrest)

theorem ascending_insertField (f : Field) :
    ∀ {fs : List Field}, (fs.map (·.name)).Pairwise (· < ·) →
    ((insertField f fs).map (·.name)).Pairwise (· < ·)
  | [], _ => List.pairwise_singleton _ _
  | g :: gs, h => by
    obtain ⟨hg, hgs⟩ := List.pairwise_cons.mp h
    unfold insertField
    split
    · rename_i hlt
      refine List.pairwise_cons.mpr ⟨fun n hn => ?_, h⟩
      rcases List.mem_cons.mp hn with rfl | hn
      · exact hlt
      · exact String.lt_trans hlt (hg n hn)
    · split
      · rename_i heq
        exact List.pairwise_cons.mpr ⟨fun n hn => lt_of_eq_of_lt heq (hg n hn), hgs⟩
      · rename_i hlt hne
        refine List.pairwise_cons.mpr ⟨fun n hn => ?_, ascending_insertField f hgs⟩
        obtain ⟨x, hx, rfl⟩ := List.mem_map.mp hn
        rcases mem_insertField hx with rfl | hx
        · exact lt_of_le_of_ne (not_lt.mp hlt) (Ne.symm hne)
        · exact hg _ (List.mem_map_of_mem hx)

theorem find?_insertField (f : Field) (name : String) : ∀ fs : List Field,
    (insertField f fs).find? (·.name = name) = if f.name =
      name then some f else fs.find? (·.name = name)
  | [] => by
    unfold insertField
    by_cases hname : f.name = name <;> simp [hname]
  | g :: gs => by
    unfold insertField
    by_cases hname : f.name = name
    · rw [if_pos hname]
      split
      · exact List.find?_cons_of_pos (decide_eq_true hname)
      · split
        · exact List.find?_cons_of_pos (decide_eq_true hname)
        · rename_i hne
          have hg : ¬ g.name = name := fun hg => hne (hname.trans hg.symm)
          rw [List.find?_cons_of_neg (by simpa using hg), find?_insertField f name gs, if_pos hname]
    · rw [if_neg hname]
      split
      · exact List.find?_cons_of_neg (by simpa using hname)
      · split
        · rename_i heq
          rw [List.find?_cons_of_neg (by simpa using hname),
            List.find?_cons_of_neg (by simpa [← heq] using hname)]
        · rw [List.find?_cons, List.find?_cons, find?_insertField f name gs, if_neg hname]

/-- Fields that are inserted one after the other stand in the order of their names, the last one of
each name. -/
theorem foldl_insertField (fs : List Field) :
    ((fs.foldl (fun fs f => insertField f fs) []).map (·.name)).Pairwise (· < ·) ∧
      ∀ name, (fs.foldl (fun fs f => insertField f fs) []).find? (·.name = name) =
        fs.reverse.find? (·.name = name) := by
  induction fs using List.reverseRecOn with
  | nil => exact ⟨.nil, fun _ => rfl⟩
  | append_singleton fs f ih =>
    rw [List.foldl_concat]
    refine ⟨ascending_insertField f ih.1, fun name => ?_⟩
    rw [find?_insertField, ih.2 name, List.reverse_append, List.reverse_singleton,
      List.singleton_append, List.find?_cons]
    by_cases hname : f.name = name <;> simp [hname]

/-- The schema has a field for each of the properties, and no other. Of those with one name it is
that of the last, and the fields stand in the order of their names. -/
structure Describes (c : Catalog) (rules : SerializationRules) (s : Schema)
    (ps : List ResolvedProperty) : Prop where
  ascending : (s.fields.map (·.name)).Pairwise (· < ·)
  names (name : String) : name ∈ s.fields.map (·.name) ↔ name ∈ ps.map (·.name)
  fields : ∀ f ∈ s.fields, ∃ p, ps.reverse.find? (·.name = f.name) = some p ∧ FieldOf c rules p f

theorem ofBean_describes {s : Schema} (h : (ofBean c fuel key).outcome = .ok s) :
    ∃ ps, propertiesOf c fuel key = .ok ps ∧ Describes c key.rules s ps := by
  obtain ⟨name, -, h, -⟩ := Plan.ok_of_bind h
  obtain ⟨ps, hps, h, -⟩ := Plan.ok_of_bind h
  obtain ⟨fields, hfields, h, -⟩ := Plan.ok_of_bind h
  cases h
  have hfields := fieldsOf_ok hfields
  obtain ⟨hascending, hfind⟩ := foldl_insertField fields
  refine ⟨ps, hps, hascending, fun name => ?_, fun f hf => ?_⟩
  · have hnames : ps.map (·.name) = fields.map (·.name) := by
      rw [← List.forall₂_eq_eq_eq, List.forall₂_map_left_iff, List.forall₂_map_right_iff]
      exact hfields.imp fun p f hpf => hpf.name.symm
    have hmem (fs : List Field) : name ∈ fs.map (·.name) ↔ (fs.find? (·.name = name)).isSome := by
      rw [List.find?_isSome, List.mem_map]
      simp
    rw [hnames, hmem, hfind name, ← hmem, List.map_reverse, List.mem_reverse]
  · have hlast : fields.reverse.find? (·.name = f.name) = some f := by
      have hdistinct := hascending.imp fun hlt => ne_of_lt hlt
      obtain ⟨g, hg⟩ : ∃ g,
          (fields.foldl (fun fs f => insertField f fs) []).find? (·.name = f.name) = some g := by
        rw [← Option.isSome_iff_exists, List.find?_isSome]
        exact ⟨f, hf, by simp⟩
      have hname : g.name = f.name := by simpa using List.find?_some hg
      rw [← hfind f.name, hg,
        List.inj_on_of_nodup_map hdistinct (List.mem_of_find?_eq_some hg) hf hname]
    have hsame (p : ResolvedProperty) (g : Field) (hpg : FieldOf c key.rules p g) :
        decide (p.name = f.name) = decide (g.name = f.name) := by rw [hpg.name]
    exact find?_of_forall₂ hsame (List.forall₂_reverse_iff.mpr hfields) hlast

end Schema

end ServiceApi
