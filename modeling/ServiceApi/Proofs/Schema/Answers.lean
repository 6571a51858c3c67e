import ServiceApi.Proofs.Schema.Bounded

/-! # When there is enough fuel

The three recursions that fuel cuts short come to an end for reasons of their own: the superclass
chain because it stops where it has been before, names and shapes because no type is named after
others without end. The rest follows step by step, up to the plan of a schema. -/

namespace ServiceApi

open Relation (ReflTransGen)

theorem ncard_sdiff_lt {α : Type} {s a b : Set α} (hs : s.Finite) (hab : a ⊆ b) {x : α} (hx : x ∈ s)
    (ha : x ∉ a) (hb : x ∈ b) : (s \ b).ncard < (s \ a).ncard :=
  Set.ncard_lt_ncard ⟨Set.sdiff_subset_sdiff_right hab, fun h => (h ⟨hx, ha⟩).2 hb⟩
    (hs.subset Set.sdiff_subset)

theorem error_ne_outOfFuel {α β : Type} {e : ApiError}
    (h : (.error e : Except ApiError α) ≠ .error .outOfFuel) :
    (.error e : Except ApiError β) ≠ .error .outOfFuel :=
  fun he => h (congrArg Except.error (Except.error.inj he))

/-- With enough fuel `f` comes to one answer, and there is enough. -/
def Answers {α : Type} (f : Nat → Except ApiError α) : Prop :=
  ∃ r, r ≠ .error .outOfFuel ∧ ∃ n, ∀ fuel ≥ n, f fuel = r

namespace Answers

variable {α β : Type} {x : Except ApiError α} {f : Nat → Except ApiError α}

theorem const (h : x ≠ .error .outOfFuel) : Answers fun _ => x := ⟨x, h, 0, fun _ _ => rfl⟩

theorem ok (a : α) : Answers fun _ => .ok a := const fun h => by cases h

theorem of_declarations (h : FailsBy ApiError.isOfDeclarations x) : Answers fun _ => x :=
  const h.ne_outOfFuel

theorem bind {g : Nat → α → Except ApiError β} (hf : Answers f)
    (hg : ∀ a, (∃ n, f n = .ok a) → Answers fun n => g n a) : Answers fun n => f n >>= g n := by
  obtain ⟨r, hr, n, hn⟩ := hf
  cases r with
  | error e =>
    exact ⟨.error e, error_ne_outOfFuel hr, n,
      fun fuel hfuel => congrArg (· >>= g fuel) (hn fuel hfuel)⟩
  | ok a =>
    obtain ⟨r', hr', n', hn'⟩ := hg a ⟨n, hn n le_rfl⟩
    refine ⟨r', hr', max n n', fun fuel hfuel => ?_⟩
    exact (congrArg (· >>= g fuel) (hn fuel (le_of_max_le_left hfuel))).trans
      (hn' fuel (le_of_max_le_right hfuel))

/-- One step of the recursion may be taken off. -/
theorem succ (h : Answers fun n => f (n + 1)) : Answers f := by
  obtain ⟨r, hr, n, hn⟩ := h
  refine ⟨r, hr, n + 1, fun fuel hfuel => ?_⟩
  obtain ⟨m, rfl⟩ : ∃ m, fuel = m + 1 := ⟨fuel - 1, by omega⟩
  exact hn m (by omega)

end Answers

open Answers

namespace Catalog

variable {c : Catalog}

theorem superclassChain_answers {types : Set TypeExpr} (hfinite : types.Finite)
    (hclosed : ∀ t ∈ types, ∀ s, c.HasSuperclass t s → s ∈ types)
    (visited : List TypeExpr) (t : TypeExpr)
    (ht : t ∈ types) : Answers fun n => c.superclassChain n visited t := by
  -- What has not been visited yet becomes less with each superclass.
  induction hm : (types \ {s | s ∈ t :: visited}).ncard using Nat.strongRecOn
    generalizing visited t with
  | ind m ih =>
    refine .succ ?_
    simp only [superclassChain]
    cases hs : c.superclass? t with
    | none => exact ok _
    | some next =>
      dsimp only
      split
      · exact ok _
      · rename_i hstop
        rw [Bool.or_eq_true, not_or, List.contains_iff_mem] at hstop
        have hnext : next ∈ types := hclosed t ht next hs
        have hless : (types \ {s | s ∈ next :: t :: visited}).ncard < m :=
          hm ▸ ncard_sdiff_lt hfinite (fun _ => List.mem_cons_of_mem next) hnext hstop.2
            List.mem_cons_self
        exact (ih _ hless (t :: visited) next hnext rfl).bind fun _ _ => ok _

theorem properties_answers {t : TypeExpr}
    (hfinite : {s | ReflTransGen c.HasSuperclass t s}.Finite) :
    Answers fun n => c.properties n t := by
  unfold properties
  cases t.rawName? with
  | none => exact of_declarations (.error rfl)
  | some name =>
    refine (of_declarations (c.requireClass_failsBy name _)).bind fun _ _ => ?_
    refine (superclassChain_answers hfinite (fun s hs s' h => hs.tail h) [] t .refl).bind
      fun chain _ => ?_
    exact (of_declarations (.mapM c.ownProperties_failsBy _)).bind fun _ _ => ok _

end Catalog

namespace Schema

variable {c : Catalog} {rules : SerializationRules}

theorem namesOf_answers : ∀ {ts : List TypeExpr}, (∀ t ∈ ts, Answers fun n => nameOf c rules n t) →
    Answers fun n => namesOf c rules n ts
  | [], _ => by
    simp only [namesOf]
    exact ok _
  | t :: ts, h => by
    refine .succ ?_
    simp only [namesOf]
    refine (h t List.mem_cons_self).bind fun _ _ => ?_
    exact (namesOf_answers fun t' ht' => h t' (List.mem_cons_of_mem t ht')).bind fun _ _ => ok _

theorem nameOf_answers {t : TypeExpr} (h : c.NamesEnd rules t) :
    Answers fun n => nameOf c rules n t := by
  rw [Catalog.namesEnd_iff_acc] at h
  induction h with
  | intro t _ ih =>
    refine .succ ?_
    simp only [nameOf]
    cases hi : c.arrayItem? t with
    | some item =>
      refine (of_declarations (c.schemaType_failsBy rules item)).bind fun resolved hresolved => ?_
      exact (ih resolved (.item hi hresolved.choose_spec)).bind fun _ _ => ok _
    | none =>
      cases t with
      | named name args =>
        refine (of_declarations (c.resourceSchema_failsBy rules _)).bind fun resource _ => ?_
        cases resource.bind (·.name) with
        | some resourceName => exact ok _
        | none => exact (namesOf_answers fun a ha => ih a (.argument ha)).bind fun _ _ => ok _
      | primitive p => exact ok _
      | _ => exact of_declarations (.error rfl)

/-- Where items lead to items without end, no name is ever put together. -/
theorem nameOf_of_endless {path : Nat → TypeExpr}
    (hpath : ∀ n, ∃ item, c.arrayItem? (path n) = some item ∧
      c.schemaType rules item = .ok (path (n + 1))) (fuel : Nat) :
    ∀ n, nameOf c rules fuel (path n) = .error .outOfFuel := by
  induction fuel with
  | zero => exact fun n => by rw [nameOf]
  | succ fuel ih =>
    intro n
    obtain ⟨item, hitem, hnext⟩ := hpath n
    simp only [nameOf, hitem, hnext, ih (n + 1), Bind.bind, Except.bind]

theorem ofEnum_answers {t : TypeExpr} (h : c.NamesEnd rules t) :
    Answers fun n => ofEnum c rules n t :=
  (of_declarations (c.requireClass_failsBy _ _)).bind fun _ _ =>
    (nameOf_answers h).bind fun _ _ => ok _

/-- The recursion is in the items alone. -/
theorem shapeOf_answers_of_items (name : String) {t : TypeExpr}
    (h : ∀ u i, c.schemaType rules t = .ok u → c.arrayItem? u = some i →
      Answers fun n => (shapeOf c rules name n i).outcome) :
    Answers fun n => (shapeOf c rules name n t).outcome := by
  refine .succ ?_
  simp only [shapeOf, Plan.outcome_bind]
  refine (of_declarations (c.schemaType_failsBy rules t)).bind fun u hu => ?_
  split
  · exact of_declarations (.error rfl)
  · cases hi : c.arrayItem? u with
    | none => exact of_declarations (.error rfl)
    | some i =>
      simp only [Plan.outcome_bind]
      exact (h u i hu.choose_spec hi).bind fun _ _ => ok _
  all_goals exact ok _

theorem itemShape_answers (name : String) {u : TypeExpr} (h : c.NamesEnd rules u) :
    ∀ i, c.arrayItem? u = some i → Answers fun n => (shapeOf c rules name n i).outcome := by
  rw [Catalog.namesEnd_iff_acc] at h
  induction h with
  | intro u _ ih =>
    exact fun i hi => shapeOf_answers_of_items name fun v j hv => ih v (.item hi hv) j

theorem shapeOf_answers (name : String) {t : TypeExpr}
    (h : ∀ u, c.schemaType rules t = .ok u → c.NamesEnd rules u) :
    Answers fun n => (shapeOf c rules name n t).outcome :=
  shapeOf_answers_of_items name fun u i hu => itemShape_answers name (h u hu) i

theorem fieldsOf_answers : ∀ ps : List ResolvedProperty,
    (∀ p ∈ ps, ∀ u, c.schemaType rules p.type = .ok u → c.NamesEnd rules u) →
      Answers fun n => (fieldsOf c rules n ps).outcome
  | [], _ => ok _
  | p :: ps, h => by
    simp only [fieldsOf, Plan.outcome_bind]
    exact (shapeOf_answers p.name (h p List.mem_cons_self)).bind fun _ _ =>
      (fieldsOf_answers ps fun q hq => h q (List.mem_cons_of_mem p hq)).bind fun _ _ => ok _

variable {key : SchemaKey}

theorem ofArray_answers (h : c.NamesEnd key.rules key.type) :
    Answers fun n => (ofArray c n key).outcome := by
  unfold ofArray
  cases hi : c.arrayItem? key.type with
  | none => exact of_declarations (.error rfl)
  | some item =>
    simp only [Plan.outcome_bind]
    exact (itemShape_answers "items" h item hi).bind
      fun _ _ => (nameOf_answers h).bind fun _ _ => ok _

theorem propertiesOf_answers (h : {s | ReflTransGen c.HasSuperclass key.type s}.Finite) :
    Answers fun n => propertiesOf c n key := by
  unfold propertiesOf
  refine (of_declarations (c.resourceSchema_failsBy key.rules key.type)).bind fun resource _ => ?_
  cases resource with
  | none => exact Catalog.properties_answers h
  | some resource => exact ok _

variable {t : TypeExpr}

theorem ofBean_answers (h : c.Bounded key.rules t) (hkey : c.Reaches key.rules t key.type) :
    Answers fun n => (ofBean c n key).outcome := by
  simp only [ofBean, Plan.outcome_bind]
  refine (nameOf_answers (h.names _ hkey)).bind fun _ _ => ?_
  refine (propertiesOf_answers (h.superclasses _ hkey)).bind fun ps ⟨_, hps⟩ => ?_
  refine (fieldsOf_answers ps fun p hp u hu => ?_).bind fun _ _ => ok _
  exact h.names u (hkey.trans (.single (leads_of_propertiesOf hps hp hu)))

theorem ownPlan_answers (h : c.Bounded key.rules t) (hkey : c.Reaches key.rules t key.type) :
    Answers fun n => (ownPlan c n key).outcome := by
  unfold ownPlan
  split
  · exact of_declarations (.error rfl)
  · exact ofEnum_answers (h.names _ hkey)
  · exact ofArray_answers (h.names _ hkey)
  · exact ofBean_answers h hkey
  · exact of_declarations (.error rfl)

theorem planOf_answers (h : c.Bounded key.rules t) (hkey : c.Reaches key.rules t key.type) :
    Answers fun n => (planOf c n key).outcome := by
  unfold planOf
  split
  · exact ok _
  · split
    · exact ok _
    · simp only [Plan.outcome_bind]
      exact (ownPlan_answers h hkey).bind fun _ _ => ok _

end Schema

end ServiceApi
