import ServiceApi.Proofs.Compile
import ServiceApi.Proofs.Fuel
import ServiceApi.Proofs.Schema.Faults

/-! # One plan for every schema

The two shared schemas, enumerations, repeated types and classes are put together each in their own
way. Here they are one plan, and compiling a schema is to have this plan carried out behind a
placeholder: those that need no other schema are filled without one, which leaves the same slots. -/

namespace ServiceApi

namespace Schema

variable {c : Catalog} {fuel fuel' : Nat} {key : SchemaKey}

/-- The schema that is built for `key` alone. -/
def ownPlan (c : Catalog) (fuel : Nat) (key : SchemaKey) : Plan Schema :=
  match c.fieldType? key.type with
  | none => .fail (.unsupportedType "schema repository" key.type .unresolvedOrVoid)
  | some .enum => liftM (ofEnum c key.rules fuel key.type)
  | some .array => ofArray c fuel key
  | some .object => ofBean c fuel key
  | some _ => .fail (.unsupportedType "schema repository" key.type .scalarResource)

def planOf (c : Catalog) (fuel : Nat) (key : SchemaKey) : Plan Compiled :=
  if key.type.isAnyObject then pure .anyValue
  else if c.isMap key.type then pure .anyMap
  else do
    let schema ← ownPlan c fuel key
    return ⟨.built key, schema⟩

theorem ownPlan_asks {s : Schema} (h : (ownPlan c fuel key).outcome = .ok s) :
    ∀ target ∈ s.targets, target ∈ (ownPlan c fuel key).needs := by
  unfold ownPlan at h ⊢
  split at h
  · cases h
  · intro target ht
    rw [ofEnum_targets h] at ht
    cases ht
  · exact ofArray_asks h
  · exact ofBean_asks h
  · cases h

theorem planOf_asks {s : Compiled} (h : (planOf c fuel key).outcome = .ok s) :
    ∀ target ∈ s.schema.targets, target ∈ (planOf c fuel key).needs := by
  unfold planOf at h ⊢
  split at h
  · cases h
    intro target ht
    cases ht
  · rename_i hany
    rw [if_neg hany]
    split at h
    · cases h
      intro target ht
      cases ht
    · rename_i hmap
      obtain ⟨schema, hs, h, hn⟩ := Plan.ok_of_bind h
      cases h
      rw [if_neg hmap, hn]
      exact fun target ht => List.mem_append_left _ (ownPlan_asks hs target ht)

theorem ownPlan_cutShort (c : Catalog) (h : fuel ≤ fuel') (key : SchemaKey) :
    (ownPlan c fuel key).CutShort (ownPlan c fuel' key) := by
  unfold ownPlan
  split
  · exact .refl _
  · exact .lift (ofEnum_cutShort c key.rules h key.type)
  · exact ofArray_cutShort c h key
  · exact ofBean_cutShort c h key
  · exact .refl _

theorem planOf_cutShort (c : Catalog) (h : fuel ≤ fuel') (key : SchemaKey) :
    (planOf c fuel key).CutShort (planOf c fuel' key) := by
  unfold planOf
  split
  · exact .refl _
  · split
    · exact .refl _
    · exact (ownPlan_cutShort c h key).bind fun _ => .refl _

theorem ownPlan_failsBy (c : Catalog) (fuel : Nat) (key : SchemaKey) :
    FailsBy ApiError.isOfTypes (ownPlan c fuel key).outcome := by
  unfold ownPlan
  split
  · exact .error rfl
  · exact ofEnum_failsBy c key.rules fuel key.type
  · exact ofArray_failsBy c fuel key
  · exact ofBean_failsBy c fuel key
  · exact .error rfl

theorem planOf_failsBy (c : Catalog) (fuel : Nat) (key : SchemaKey) :
    FailsBy ApiError.isOfTypes (planOf c fuel key).outcome := by
  unfold planOf
  split
  · exact .ok _
  · split
    · exact .ok _
    · exact .plan_bind (ownPlan_failsBy c fuel key) fun _ => .ok _

end Schema

namespace Compile

/-- The slots that `m` leaves, or its failure. -/
def slotsAfter (m : Compile Unit) (s : Repository) : Except ApiError Slots :=
  match m.result s with
  | (.ok _, t) => .ok t.slots
  | (.error e, _) => .error e

variable {m : Compile Unit} {s t : Repository} {e : ApiError}

theorem slotsAfter_of_ok (h : m.result s = (.ok ⟨⟩, t)) : m.slotsAfter s = .ok t.slots := by
  rw [slotsAfter, h]

theorem slotsAfter_of_error (h : m.result s = (.error e, t)) : m.slotsAfter s = .error e := by
  rw [slotsAfter, h]

theorem result_of_slotsAfter_ok {slots : Slots} (h : m.slotsAfter s = .ok slots) :
    ∃ t, m.result s = (.ok ⟨⟩, t) ∧ t.slots = slots := by
  unfold slotsAfter at h
  rcases hr : m.result s with ⟨r, t⟩
  rw [hr] at h
  cases r with
  | ok a => cases h; exact ⟨t, rfl, rfl⟩
  | error e => cases h

theorem result_of_slotsAfter_error (h : m.slotsAfter s = .error e) :
    ∃ t, m.result s = (.error e, t) := by
  unfold slotsAfter at h
  rcases hr : m.result s with ⟨r, t⟩
  rw [hr] at h
  cases r with
  | ok a => cases h
  | error e => cases h; exact ⟨t, rfl⟩

end Compile

end ServiceApi
