import ServiceApi.Proofs.Schema.Whole
import Mathlib.Logic.Relation

/-! # What a schema needs

A plan asks for schemas of its own serialization rules only, and of no types but those that its type
leads to: by its items, under any number of arrays, and by its properties or what a resource
transformer has in their place. Which types these are does not depend on what has been compiled
before. -/

namespace ServiceApi

open Relation (ReflTransGen)

namespace Catalog

/-- One step from a type to another, which has been through its transformer: an argument, the items,
or the type of a property, be it of the class or of its resource transformer. -/
inductive Leads (c : Catalog) (rules : SerializationRules) : TypeExpr → TypeExpr → Prop
  | argument {t a u : TypeExpr} : a ∈ t.args → c.schemaType rules a = .ok u → Leads c rules t u
  | item {t i u : TypeExpr} : c.arrayItem? t = some i → c.schemaType rules i =
      .ok u → Leads c rules t u
  | property {t u : TypeExpr} {fuel : Nat} {ps : List ResolvedProperty} {p : ResolvedProperty} :
      c.properties fuel t = .ok ps → p ∈ ps → c.schemaType rules p.type = .ok u → Leads c rules t u
  | resource {t u : TypeExpr} {r : ResourceSchema} {p : ResourceProperty} :
      c.resourceSchema rules t = .ok (some r) → p ∈ r.properties →
        c.schemaType rules p.type = .ok u →
      Leads c rules t u

/-- The types that `t` leads to, once it has been through its transformer, itself among them. -/
def Reaches (c : Catalog) (rules : SerializationRules) (t u : TypeExpr) : Prop :=
  ∃ root, c.schemaType rules t = .ok root ∧ ReflTransGen (c.Leads rules) root u

variable {c : Catalog} {rules : SerializationRules} {s t u : TypeExpr}

theorem Reaches.trans (h : c.Reaches rules t s) (hs : ReflTransGen (c.Leads rules) s u) :
    c.Reaches rules t u := by
  obtain ⟨root, hroot, hsteps⟩ := h
  exact ⟨root, hroot, hsteps.trans hs⟩

theorem leads_of_reaches {i : TypeExpr} (hi : ∀ v, c.schemaType rules i = .ok v → c.Leads rules s v)
    (h : c.Reaches rules i u) : ReflTransGen (c.Leads rules) s u := by
  obtain ⟨root, hroot, hsteps⟩ := h
  exact .head (hi root hroot) hsteps

end Catalog

open Catalog

namespace Plan

variable {α β : Type} {P : SchemaKey → Prop} {p : Plan α}

/-- All that `p` asks for is in `P`. -/
def NeedsOnly (P : SchemaKey → Prop) (p : Plan α) : Prop := ∀ need ∈ p.needs, P need

namespace NeedsOnly

theorem nothing (h : p.needs = []) : p.NeedsOnly P := by
  intro need hneed
  rw [h] at hneed
  cases hneed

theorem need {key : SchemaKey} (h : P key) : (Plan.need key).NeedsOnly P := by
  intro need hneed
  rw [List.mem_singleton.mp hneed]
  exact h

theorem mono {Q : SchemaKey → Prop} (hp : p.NeedsOnly P)
    (h : ∀ key, P key → Q key) : p.NeedsOnly Q :=
  fun need hneed => h need (hp need hneed)

theorem bind {f : α → Plan β} (hp : p.NeedsOnly P)
    (hf : ∀ a, p.outcome = .ok a → (f a).NeedsOnly P) : (p >>= f).NeedsOnly P := by
  intro need hneed
  cases ho : p.outcome with
  | error e =>
    rw [bind_of_error f ho] at hneed
    exact hp need hneed
  | ok a =>
    rw [bind_of_ok f ho] at hneed
    exact (List.mem_append.mp hneed).elim (hp need) (hf a ho need)

end NeedsOnly

end Plan

namespace Schema

open Plan

variable {c : Catalog} {fuel : Nat} {rules : SerializationRules}

/-- A schema of the rules, of a type that `t` leads to through its transformer. -/
def Needed (c : Catalog) (rules : SerializationRules) (t : TypeExpr) (need : SchemaKey) : Prop :=
  need.rules = rules ∧ c.Reaches rules t need.type

theorem shapeOf_needs (name : String) (fuel : Nat) (t : TypeExpr) :
    (shapeOf c rules name fuel t).NeedsOnly (Needed c rules t) := by
  induction fuel generalizing t with
  | zero => exact .nothing rfl
  | succ fuel ih =>
    rw [shapeOf]
    refine .bind (.nothing rfl) fun resolved hresolved => ?_
    have hself : Needed c rules t ⟨rules, resolved⟩ := ⟨rfl, resolved, hresolved, .refl⟩
    split
    · exact .nothing rfl
    · cases hi : c.arrayItem? resolved with
      | none => exact .nothing rfl
      | some item =>
        refine .bind ((ih item).mono fun need hneed => ⟨hneed.1, ?_⟩) fun _ _ => .nothing rfl
        exact hself.2.trans (leads_of_reaches (fun _ => .item hi) hneed.2)
    · exact .bind (.need hself) fun _ _ => .nothing rfl
    · exact .bind (.need hself) fun _ _ => .nothing rfl
    · exact .nothing rfl

theorem fieldsOf_needs : ∀ ps : List ResolvedProperty,
    (fieldsOf c rules fuel ps).NeedsOnly fun need => ∃ p ∈ ps, Needed c rules p.type need
  | [] => .nothing rfl
  | p :: ps =>
    .bind ((shapeOf_needs p.name fuel p.type).mono fun _ h => ⟨p, List.mem_cons_self, h⟩) fun _ _ =>
      .bind ((fieldsOf_needs ps).mono fun _ ⟨q, hq, h⟩ =>
        ⟨q, List.mem_cons_of_mem p hq, h⟩) fun _ _ =>
        .nothing rfl

/-- A schema of the rules of `key`, of a type that its type leads to. -/
def Follows (c : Catalog) (key need : SchemaKey) : Prop :=
  need.rules = key.rules ∧ ReflTransGen (c.Leads key.rules) key.type need.type

variable {key : SchemaKey}

/-- What follows a schema that is needed is needed. -/
theorem Needed.follow {t : TypeExpr} {need : SchemaKey} (h : Needed c rules t key)
    (hneed : Follows c key need) : Needed c rules t need := by
  obtain ⟨rfl, hreaches⟩ := h
  exact ⟨hneed.1, hreaches.trans hneed.2⟩

theorem ofArray_needs : (ofArray c fuel key).NeedsOnly (Follows c key) := by
  unfold ofArray
  cases hi : c.arrayItem? key.type with
  | none => exact .nothing rfl
  | some item =>
    refine .bind ((shapeOf_needs "items" fuel item).mono fun need hneed => ⟨hneed.1, ?_⟩) fun _ _ =>
      .bind (.nothing rfl) fun _ _ => .nothing rfl
    exact leads_of_reaches (fun _ => .item hi) hneed.2

/-- Whichever way a property comes by its type, the type is one step away. -/
theorem leads_of_propertiesOf {ps : List ResolvedProperty} (h : propertiesOf c fuel key = .ok ps)
    {p : ResolvedProperty} (hp : p ∈ ps) {v : TypeExpr}
    (hv : c.schemaType key.rules p.type = .ok v) :
    c.Leads key.rules key.type v := by
  unfold propertiesOf at h
  cases hr : c.resourceSchema key.rules key.type with
  | error e => rw [hr] at h; cases h
  | ok resource =>
    rw [hr] at h
    cases resource with
    | none => exact .property h hp hv
    | some resource =>
      cases h
      obtain ⟨q, hq, rfl⟩ := List.mem_map.mp hp
      exact .resource hr hq hv

theorem ofBean_needs : (ofBean c fuel key).NeedsOnly (Follows c key) := by
  refine .bind (.nothing rfl) fun _ _ => .bind (.nothing rfl) fun ps hps => ?_
  refine .bind ((fieldsOf_needs ps).mono ?_) fun _ _ => .nothing rfl
  rintro need ⟨p, hp, hrules, hreaches⟩
  exact ⟨hrules, leads_of_reaches (fun _ => leads_of_propertiesOf hps hp) hreaches⟩

theorem ownPlan_needs (c : Catalog) (fuel : Nat) (key : SchemaKey) :
    (ownPlan c fuel key).NeedsOnly (Follows c key) := by
  unfold ownPlan
  split
  · exact .nothing rfl
  · exact .nothing rfl
  · exact ofArray_needs
  · exact ofBean_needs
  · exact .nothing rfl

theorem planOf_needs (c : Catalog) (fuel : Nat) (key : SchemaKey) :
    (planOf c fuel key).NeedsOnly (Follows c key) := by
  unfold planOf
  split
  · exact .nothing rfl
  · split
    · exact .nothing rfl
    · exact .bind (ownPlan_needs c fuel key) fun _ _ => .nothing rfl

end Schema

end ServiceApi
