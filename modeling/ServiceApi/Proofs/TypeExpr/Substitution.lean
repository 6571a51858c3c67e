import ServiceApi.Proofs.TypeExpr.RoundTrip

/-! # Resolved types and their texts

A type whose variables were replaced is read back from its text, but for one thing: the brackets of
an array of `T` go to the bound where `T` stands for a wildcard with a bound. -/

namespace ServiceApi.TypeExpr

variable {env : Bindings} {t : TypeExpr}

mutual

/-- The type and all the types that it is made of. -/
def parts : TypeExpr → List TypeExpr
  | .primitive p => [.primitive p]
  | .named name args => .named name args :: partsOfAll args
  | .array item => .array item :: item.parts
  | .var name => [.var name]
  | .wildcard => [.wildcard]
  | .bounded upper => .bounded upper :: upper.parts

def partsOfAll : List TypeExpr → List TypeExpr
  | [] => []
  | t :: ts => t.parts ++ partsOfAll ts

end

/-- What comes of the type itself in `env` has a place in a text, whatever comes of its parts. -/
def Fits (env : Bindings) : TypeExpr → Prop
  | .named name _ => IsClassName name
  | .array item => ¬ (item.substitute env).IsBounded
  | .var name => env.get? name = none → isVariableName name.toList = true
  | _ => True

mutual

/-- Where all variables stand for types with a spelling, only the parts themselves matter. -/
theorem spellable_substitute_iff (henv : ∀ x v, env.get? x = some v → v.Spellable) :
    ∀ t : TypeExpr, (t.substitute env).Spellable ↔ ∀ u ∈ t.parts, u.Fits env
  | .primitive _ => by simp [substitute, Spellable, parts, Fits]
  | .named name args => by
    rw [substitute, Spellable, parts, List.forall_mem_cons,
      allSpellable_substitute_iff henv args, Fits]
  | .array item => by
    rw [substitute, Spellable, parts, List.forall_mem_cons,
      spellable_substitute_iff henv item, Fits, and_comm]
  | .var name => by
    rw [substitute, parts, List.forall_mem_singleton, Fits]
    cases h : env.get? name with
    | none => simp [Spellable]
    | some v => simpa using henv name v h
  | .wildcard => by simp [substitute, Spellable, parts, Fits]
  | .bounded upper => by
    rw [substitute, Spellable, parts, List.forall_mem_cons, spellable_substitute_iff henv upper]
    simp [Fits]

theorem allSpellable_substitute_iff (henv : ∀ x v, env.get? x = some v → v.Spellable) :
    ∀ ts : List TypeExpr, AllSpellable (substituteAll env ts) ↔ ∀ u ∈ partsOfAll ts, u.Fits env
  | [] => by simp [substituteAll, AllSpellable, partsOfAll]
  | t :: ts => by
    rw [substituteAll, AllSpellable, partsOfAll, List.forall_mem_append,
      spellable_substitute_iff henv t, allSpellable_substitute_iff henv ts]

end

mutual

theorem Spellable.of_mem_parts : ∀ {t u : TypeExpr}, t.Spellable → u ∈ t.parts → u.Spellable
  | .primitive _, _, ht, hu | .var _, _, ht, hu | .wildcard, _, ht, hu => by
    rw [parts, List.mem_singleton] at hu
    exact hu ▸ ht
  | .named _ args, _, ht, hu => by
    rw [parts, List.mem_cons] at hu
    rcases hu with rfl | hu
    · exact ht
    · exact AllSpellable.of_mem_parts ht.2 hu
  | .array item, _, ht, hu => by
    rw [parts, List.mem_cons] at hu
    rcases hu with rfl | hu
    · exact ht
    · exact ht.1.of_mem_parts hu
  | .bounded upper, _, ht, hu => by
    rw [parts, List.mem_cons] at hu
    rcases hu with rfl | hu
    · exact ht
    · exact Spellable.of_mem_parts (t := upper) ht hu

theorem AllSpellable.of_mem_parts : ∀ {ts : List TypeExpr} {u : TypeExpr}, AllSpellable ts →
    u ∈ partsOfAll ts → u.Spellable
  | [], _, _, hu => nomatch hu
  | _ :: _, _, hts, hu => by
    rw [partsOfAll, List.mem_append] at hu
    exact hu.elim hts.1.of_mem_parts (AllSpellable.of_mem_parts hts.2)

end

theorem isBounded_substitute_iff {item : TypeExpr} (h : ¬ item.IsBounded) :
    (item.substitute env).IsBounded ↔ ∃ x upper, item = .var x ∧
      env.get? x = some (.bounded upper) := by
  cases item with
  | bounded upper => exact absurd trivial h
  | var x =>
    rw [substitute]
    cases henv : env.get? x with
    | none => simp [IsBounded, henv]
    | some v => cases v <;> simp [IsBounded, henv]
  | _ => simp [substitute, IsBounded]

/-- In a type with a spelling, the only thing that can go wrong is an array of a variable that
stands for a wildcard with a bound. -/
theorem Spellable.fits_iff (ht : t.Spellable) : (∀ u ∈ t.parts, u.Fits env) ↔
    ∀ x upper, env.get? x = some (.bounded upper) → .array (.var x) ∉ t.parts := by
  constructor
  · intro h x upper hx hmem
    exact h _ hmem ((isBounded_substitute_iff id).mpr ⟨x, upper, rfl, hx⟩)
  · intro h u hu
    have hspellable := ht.of_mem_parts hu
    cases u with
    | named name args => exact hspellable.1
    | array item =>
      intro hbounded
      obtain ⟨x, upper, rfl, hx⟩ := (isBounded_substitute_iff hspellable.2).mp hbounded
      exact h x upper hx hu
    | var name => exact fun _ => hspellable
    | _ => trivial

/-- A resolved type is read back from its text just if each part has a place in a text: the parts of
a type that was read itself all have one, unless they are arrays of a variable that stands for a
wildcard with a bound. Of the types that are read back no two have one text. -/
theorem resolved_types_are_read_back (henv : ∀ x v, env.get? x = some v → ∃ s, parse s = .ok v)
    (t : TypeExpr) :
    (parse (t.substitute env).text = .ok (t.substitute env) ↔ ∀ u ∈ t.parts, u.Fits env) ∧
      ((∃ s, parse s = .ok t) → ((∀ u ∈ t.parts, u.Fits env) ↔
        ∀ x upper, env.get? x = some (.bounded upper) → .array (.var x) ∉ t.parts)) ∧
      ∀ t' : TypeExpr, parse t'.text = .ok t' → (∀ u ∈ t.parts, u.Fits env) →
        t'.text = (t.substitute env).text → t' = t.substitute env := by
  have hvalues : ∀ x v, env.get? x = some v → v.Spellable := fun x v hx => by
    obtain ⟨s, hs⟩ := henv x v hx
    exact (parse_eq_ok_iff.mp hs).1
  have hread := parse_text_iff.trans (spellable_substitute_iff hvalues t)
  refine ⟨hread, fun ⟨s, hs⟩ => (parse_eq_ok_iff.mp hs).1.fits_iff, fun t' ht' hfits htext => ?_⟩
  rw [htext, hread.mpr hfits] at ht'
  exact (Except.ok.inj ht').symm

/-- `T` stands for a wildcard with a bound. -/
def boundedBinding : Bindings := OrderedMap.empty.insert "T" (.bounded (.raw "Foo"))

theorem boundedBinding_read (x : String) (v : TypeExpr) (h : boundedBinding.get? x = some v) :
    ∃ s, parse s = .ok v := by
  rw [boundedBinding, OrderedMap.get?_insert] at h
  split at h
  · cases h
    exact ⟨_, parse_text_iff.mpr (by decide)⟩
  · cases h

theorem resolved_types_are_read_back_list :
    let t : TypeExpr := .named "List" [.array (.array (.raw "Foo")), .bounded (.var "T")]
    (∀ x v, boundedBinding.get? x = some v → ∃ s, parse s = .ok v) ∧ (∃ s, parse s = .ok t) ∧
      parse (t.substitute boundedBinding).text = .ok (t.substitute boundedBinding) := by
  intro t
  have ht : ∃ s, parse s = .ok t := ⟨_, parse_text_iff.mpr (by decide)⟩
  obtain ⟨hread, hfits, -⟩ := resolved_types_are_read_back boundedBinding_read t
  refine ⟨boundedBinding_read, ht, hread.mpr ((hfits ht).mpr fun x upper _ => ?_)⟩
  simp [t, parts, partsOfAll]

/-- The brackets of `T[]` go to the bound of what `T` stands for. -/
theorem brackets_go_to_the_bound :
    let t : TypeExpr := .array (.var "T")
    (∃ s, parse s = .ok t) ∧ (∀ x v, boundedBinding.get? x = some v → ∃ s, parse s = .ok v) ∧
      t.substitute boundedBinding ≠ .bounded (.array (.raw "Foo")) ∧
      parse (t.substitute boundedBinding).text = .ok (.bounded (.array (.raw "Foo"))) := by
  intro t
  refine ⟨⟨_, parse_text_iff.mpr (by decide)⟩, boundedBinding_read, by decide, ?_⟩
  have htext : (t.substitute boundedBinding).text = text (.bounded (.array (.raw "Foo"))) := by rfl
  rw [htext]
  exact parse_text_iff.mpr (by decide)

end ServiceApi.TypeExpr
