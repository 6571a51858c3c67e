import ServiceApi.Schema.Plan

/-! # What a plan asks for

A plan asks for every schema that its fields refer to, under any number of arrays. So a schema can
be finished only after each of its references has been asked for. -/

namespace ServiceApi

namespace Plan

variable {α β : Type}

theorem bind_of_ok {p : Plan α} {a : α} (f : α → Plan β) (h : p.outcome = .ok a) :
    p >>= f = ⟨p.needs ++ (f a).needs, (f a).outcome⟩ := by
  obtain ⟨needs, outcome⟩ := p
  cases h
  rfl

theorem bind_of_error {p : Plan α} {e : ApiError} (f : α → Plan β) (h : p.outcome = .error e) :
    p >>= f = ⟨p.needs, .error e⟩ := by
  obtain ⟨needs, outcome⟩ := p
  cases h
  rfl

theorem outcome_bind (p : Plan α) (f : α → Plan β) :
    (p >>= f).outcome = p.outcome >>= fun a => (f a).outcome := by
  cases ho : p.outcome with
  | error e => rw [bind_of_error f ho]; rfl
  | ok a => rw [bind_of_ok f ho]; rfl

theorem bind_pure (p : Plan α) (f : α → β) :
    (p >>= fun a => pure (f a)) = ⟨p.needs, p.outcome.map f⟩ := by
  cases ho : p.outcome with
  | error e => exact bind_of_error _ ho
  | ok a =>
    rw [bind_of_ok _ ho]
    exact congrArg (Plan.mk · _) (List.append_nil p.needs)

theorem ok_of_bind {p : Plan α} {f : α → Plan β} {b : β} (h : (p >>= f).outcome = .ok b) :
    ∃ a, p.outcome = .ok a ∧ (f a).outcome = .ok b ∧ (p >>= f).needs = p.needs ++ (f a).needs := by
  cases ho : p.outcome with
  | error e => rw [bind_of_error f ho] at h; cases h
  | ok a =>
    rw [bind_of_ok f ho] at h ⊢
    exact ⟨a, rfl, h, rfl⟩

end Plan

namespace Schema

variable {c : Catalog} {rules : SerializationRules} {fuel : Nat} {key : SchemaKey}

theorem shapeOf_asks {name : String} : ∀ {fuel : Nat} {t : TypeExpr} {shape : FieldShape},
    (shapeOf c rules name fuel t).outcome = .ok shape →
    ∀ key, shape.target? = some key → key ∈ (shapeOf c rules name fuel t).needs
  | 0, _, _, h, _, _ => by cases h
  | fuel + 1, t, shape, h, key, hk => by
    simp only [shapeOf] at h ⊢
    obtain ⟨resolved, -, h, hn⟩ := Plan.ok_of_bind h
    rw [hn]
    refine List.mem_append_right _ ?_
    split at h
    · cases h
    · cases hi : c.arrayItem? resolved with
      | none => rw [hi] at h; cases h
      | some item =>
        rw [hi] at h
        obtain ⟨inner, hinner, h, hn⟩ := Plan.ok_of_bind h
        cases h
        rw [hn]
        exact List.mem_append_left _ (shapeOf_asks hinner key hk)
    · cases h; cases hk
      exact List.mem_singleton.mpr rfl
    · cases h; cases hk
      exact List.mem_singleton.mpr rfl
    · cases h; cases hk

theorem fieldsOf_asks : ∀ {ps : List ResolvedProperty} {fields : List Field},
    (fieldsOf c rules fuel ps).outcome = .ok fields →
    ∀ f ∈ fields, ∀ key, f.shape.target? = some key → key ∈ (fieldsOf c rules fuel ps).needs
  | [], _, h, f, hf, _, _ => by cases h; cases hf
  | p :: ps, fields, h, f, hf, key, hk => by
    obtain ⟨shape, hs, h, hn⟩ := Plan.ok_of_bind h
    obtain ⟨rest, hr, h, hn'⟩ := Plan.ok_of_bind h
    cases h
    rw [fieldsOf, hn, hn']
    rcases List.mem_cons.mp hf with rfl | hf
    · exact List.mem_append_left _ (shapeOf_asks hs key hk)
    · exact List.mem_append_right _ (List.mem_append_left _ (fieldsOf_asks hr f hf key hk))

theorem mem_insertField {f g : Field} : ∀ {fs : List Field}, g ∈ insertField f fs → g = f ∨ g ∈ fs
  | [], h => Or.inl (List.mem_singleton.mp h)
  | x :: xs, h => by
    simp only [insertField] at h
    split at h
    · exact List.mem_cons.mp h
    · split at h
      · exact (List.mem_cons.mp h).imp_right (List.mem_cons_of_mem _)
      · rcases List.mem_cons.mp h with rfl | h
        · exact Or.inr List.mem_cons_self
        · exact (mem_insertField h).imp_right (List.mem_cons_of_mem _)

theorem mem_foldl_insertField {g : Field} : ∀ {fs acc : List Field},
    g ∈ fs.foldl (fun fs f => insertField f fs) acc → g ∈ fs ∨ g ∈ acc
  | [], _, h => Or.inr h
  | f :: fs, acc, h => by
    have h : g ∈ fs.foldl (fun fs f => insertField f fs) (insertField f acc) := h
    rcases mem_foldl_insertField h with h | h
    · exact Or.inl (List.mem_cons_of_mem _ h)
    · rcases mem_insertField h with rfl | h
      · exact Or.inl List.mem_cons_self
      · exact Or.inr h

theorem mem_targets {s : Schema} : key ∈ s.targets ↔ ∃ f ∈ s.fields, f.shape.target? = some key :=
  List.mem_filterMap

theorem ofEnum_targets {t : TypeExpr} {s : Schema} (h : ofEnum c rules fuel t = .ok s) :
    s.targets = [] := by
  unfold ofEnum at h
  cases hd : c.requireClass (t.rawName?.getD "") "schema repository" with
  | error e => rw [hd] at h; cases h
  | ok decl =>
    rw [hd] at h
    cases hn : nameOf c rules fuel t with
    | error e => rw [hn] at h; cases h
    | ok name => rw [hn] at h; cases h; rfl

theorem ofArray_asks {s : Schema} (h : (ofArray c fuel key).outcome = .ok s) :
    ∀ target ∈ s.targets, target ∈ (ofArray c fuel key).needs := by
  intro target ht
  obtain ⟨f, hf, hk⟩ := mem_targets.mp ht
  unfold ofArray at h ⊢
  cases hi : c.arrayItem? key.type with
  | none => rw [hi] at h; cases h
  | some item =>
    rw [hi] at h
    obtain ⟨shape, hs, h, hn⟩ := Plan.ok_of_bind h
    obtain ⟨name, -, h, -⟩ := Plan.ok_of_bind h
    cases h
    rw [hn]
    cases List.mem_singleton.mp hf
    exact List.mem_append_left _ (shapeOf_asks hs target hk)

theorem ofBean_asks {s : Schema} (h : (ofBean c fuel key).outcome = .ok s) :
    ∀ target ∈ s.targets, target ∈ (ofBean c fuel key).needs := by
  intro target ht
  obtain ⟨f, hf, hk⟩ := mem_targets.mp ht
  unfold ofBean at h ⊢
  obtain ⟨name, -, h, hn⟩ := Plan.ok_of_bind h
  obtain ⟨ps, -, h, hn'⟩ := Plan.ok_of_bind h
  obtain ⟨fields, hfs, h, hn''⟩ := Plan.ok_of_bind h
  cases h
  rw [hn, hn', hn'']
  rcases mem_foldl_insertField hf with hf | hf
  · exact List.mem_append_right _ (List.mem_append_right _
      (List.mem_append_left _ (fieldsOf_asks hfs f hf target hk)))
  · cases hf

end Schema

end ServiceApi
