import ServiceApi.Document.Format
import ServiceApi.Proofs.Document.Schemas
import ServiceApi.Proofs.Repository.Calls

/-! # Bodies and the index

Writing a document asks the repository for one body after the other. Each is indexed for its API
when it is asked for, and no index loses a name, so all of them are still there when the definitions
are written. Nothing else is indexed but what the fields of these schemas lead to. -/

namespace ServiceApi

open Compile Repository

variable {α β : Type} {K : SchemaKey → Prop} {slots : Slots} {s t u : Repository}
  {config : ApiConfig} {fuel : Nat} {type : TypeExpr} {key : SchemaKey} {a : Compiled}

/-! ## What is reached -/

/-- The types that those of `K` lead to, from field to field. -/
inductive Uses (K : SchemaKey → Prop) (slots : Slots) : SchemaKey → Prop
  | start {key : SchemaKey} : K key → Uses K slots key
  | field {key target : SchemaKey} {a : Compiled} : Uses K slots key →
      slots.get? key = some (.done a) → target ∈ a.schema.targets → Uses K slots target

theorem Uses.mono {slots' : Slots} (h : Uses K slots key)
    (hslots : ∀ key x, slots.get? key = some x → slots'.get? key = some x) : Uses K slots' key := by
  induction h with
  | start hkey => exact .start hkey
  | field _ ha ht ih => exact .field ih (hslots _ _ ha) ht

/-- The schema of a type that is used. -/
def InUse (K : SchemaKey → Prop) (slots : Slots) (a : Compiled) : Prop :=
  ∃ key, Uses K slots key ∧ slots.get? key = some (.done a)

theorem inherited_inUse (K : SchemaKey → Prop) (slots : Slots) :
    Inherited slots (InUse K slots) := by
  rintro a ⟨key, huses, ha⟩ target ht b hb
  exact ⟨target, .field huses ha ht, hb⟩

/-- `u` comes after `s`: it is sound, slots and indexes hold what they held, and what an index holds
beyond that is used by a type of `K`. -/
structure Later (K : SchemaKey → Prop) (s u : Repository) : Prop where
  sound : Sound (fun _ => True) u
  slots : KeepsSlots s u
  grows : ∀ api name, (s.indexOf api).contains name = true → (u.indexOf api).contains name = true
  entries : ∀ api, ∀ e ∈ (u.indexOf api).entries, e ∈ (s.indexOf api).entries ∨ InUse K u.slots e.2

namespace Later

theorem refl (hs : Sound (fun _ => True) s) : Later K s s :=
  ⟨hs, fun _ _ h => h, fun _ _ h => h, fun _ _ he => Or.inl he⟩

theorem trans (h : Later K s t) (h' : Later K t u) : Later K s u := by
  refine ⟨h'.sound, fun key x hx => h'.slots key x (h.slots key x hx),
    fun api name hname => h'.grows api name (h.grows api name hname), fun api e he => ?_⟩
  rcases h'.entries api e he with he | he
  · rcases h.entries api e he with he | ⟨key, huses, hkey⟩
    · exact Or.inl he
    · exact Or.inr ⟨key, huses.mono h'.slots, h'.slots key _ hkey⟩
  · exact Or.inr he

end Later

/-- The schema of `key` is `a`, and an index holds its name. -/
structure Holds (u : Repository) (api : ApiKey) (key : SchemaKey) (a : Compiled) : Prop where
  slot : u.slots.get? key = some (.done a)
  reached : Reached (u.indexOf api) a.schema

theorem Holds.later {api : ApiKey} (h : Holds s api key a) (hl : Later K s u) :
    Holds u api key a :=
  ⟨hl.slots key _ h.slot, h.reached.imp_right (hl.grows api a.schema.name)⟩

/-! ## The bodies of a method -/

namespace MethodScope

variable (m : MethodScope)

/-- What the schema of a type is kept under. -/
def keyOf (type : TypeExpr) : Except ApiError SchemaKey := do
  return ⟨m.api.rules, ← m.api.catalog.schemaType m.api.rules type⟩

def bodyKey : Except ApiError (Option SchemaKey) := do
  match ← m.resourceAmong m.method.parameters with
  | none => return none
  | some p => return some (← m.keyOf (← p.baseType m.api.catalog m.api.rules))

def responseKey : Except ApiError (Option SchemaKey) :=
  match m.method.returnType? with
  | none => return none
  | some type => do return some (← m.keyOf type)

/-- The types that a method takes as a body and returns. -/
def Sends (key : SchemaKey) : Prop := m.bodyKey = .ok (some key) ∨ m.responseKey = .ok (some key)

end MethodScope

variable {m : MethodScope}

theorem getOrAdd_later (hs : Sound (fun _ => True) s)
    (h : (getOrAdd fuel type m.api).result s = (.ok a, u)) :
    ∃ key, m.keyOf type = .ok key ∧ Holds u m.api.key.withoutRoot key a ∧
      ∀ K, K key → Later K s u := by
  rcases getOrAdd_cases hs trivial fuel type with ⟨e, he, -⟩ | ⟨resolved, a', u', ht, hu, hg, ha⟩
  · rw [he] at h
    cases h
  · rw [hu] at h
    cases h
    refine ⟨⟨m.api.rules, resolved⟩, by rw [MethodScope.keyOf, ht]; rfl,
      ⟨ha.slot, ha.indexes.reached a (List.mem_singleton.mpr rfl)⟩, fun K hK =>
      ⟨hs.adds trivial hg ha, hg.keeps, fun api name hname => ?_, fun api e he => ?_⟩⟩
    · by_cases hapi : api = m.api.key.withoutRoot
      · subst hapi
        exact ha.indexes.grows name hname
      · rw [ha.indexes.others api hapi]
        exact hname
    · by_cases hapi : api = m.api.key.withoutRoot
      · subst hapi
        refine ha.indexes.entries (InUse K u.slots) (inherited_inUse K _) (fun b hb => ?_) e he
        rw [List.mem_singleton.mp hb]
        exact ⟨_, .start hK, ha.slot⟩
      · rw [ha.indexes.others api hapi] at he
        exact Or.inl he

/-- What a method is given for a type that it may have: nothing, or the schema. -/
structure Given (m : MethodScope) (u : Repository) (key? : Except ApiError (Option SchemaKey))
    (given : Option Schema) : Prop where
  held : ∀ key, key? = .ok (some key) → ∃ a, Holds u m.api.key.withoutRoot key a
  schema : ∀ b ∈ given, ∃ key a, key? = .ok (some key) ∧ Holds u m.api.key.withoutRoot key a ∧
    b = a.schema

theorem given_none (m : MethodScope) (u : Repository) : Given m u (.ok none) none :=
  ⟨fun _ h => (by cases h), fun _ h => (by cases h)⟩

theorem given_some (h : Holds u m.api.key.withoutRoot key a) :
    Given m u (.ok (some key)) (some a.schema) := by
  refine ⟨fun key' h' => ?_, fun b hb => ?_⟩
  · cases h'
    exact ⟨a, h⟩
  · cases hb
    exact ⟨key, a, rfl, h, rfl⟩

theorem Given.later {key? : Except ApiError (Option SchemaKey)} {given : Option Schema}
    (h : Given m s key? given) (hl : Later K s u) : Given m u key? given := by
  refine ⟨fun key hkey => ?_, fun b hb => ?_⟩
  · obtain ⟨a, ha⟩ := h.held key hkey
    exact ⟨a, ha.later hl⟩
  · obtain ⟨key, a, hkey, ha, he⟩ := h.schema b hb
    exact ⟨key, a, hkey, ha.later hl, he⟩

theorem requestBody_later (hK : ∀ key, m.Sends key → K key) {body : Option RequestBody}
    (hs : Sound (fun _ => True) s) (h : (m.requestBody fuel).result s = (.ok body, u)) :
    Later K s u ∧ Given m u m.bodyKey (body.map (·.schema)) := by
  obtain ⟨p, hp, h⟩ := ok_of_ofExcept h
  cases p with
  | none =>
    cases h
    have hbody : m.bodyKey = .ok none := by rw [MethodScope.bodyKey, hp]; rfl
    exact ⟨.refl hs, hbody ▸ given_none m s⟩
  | some p =>
    obtain ⟨type, htype, h⟩ := ok_of_ofExcept h
    obtain ⟨a, t, ha, h⟩ := Compile.ok_of_bind h
    cases h
    obtain ⟨key, hkey, hholds, hl⟩ := getOrAdd_later hs ha
    have hbody : m.bodyKey = .ok (some key) := by
      simp only [MethodScope.bodyKey, hp, htype, hkey, bind, Except.bind, pure, Except.pure]
    exact ⟨hl K (hK key (Or.inl hbody)), hbody ▸ given_some hholds⟩

theorem responseSchema_later (hK : ∀ key, m.Sends key → K key) {response : Option Schema}
    (hs : Sound (fun _ => True) s) (h : (m.responseSchema fuel).result s = (.ok response, u)) :
    Later K s u ∧ Given m u m.responseKey response := by
  rw [MethodScope.responseSchema] at h
  cases hreturn : m.method.returnType? with
  | none =>
    rw [hreturn] at h
    cases h
    have hresponse : m.responseKey = .ok none := by rw [MethodScope.responseKey, hreturn]; rfl
    exact ⟨.refl hs, hresponse ▸ given_none m s⟩
  | some type =>
    rw [hreturn] at h
    obtain ⟨a, t, ha, h⟩ := Compile.ok_of_bind h
    cases h
    obtain ⟨key, hkey, hholds, hl⟩ := getOrAdd_later hs ha
    have hresponse : m.responseKey = .ok (some key) := by
      rw [MethodScope.responseKey, hreturn]
      dsimp only
      rw [hkey]
      rfl
    exact ⟨hl K (hK key (Or.inr hresponse)), hresponse ▸ given_some hholds⟩

/-! ## One method after the other -/

/-- What holds of each result when it is there still holds in the end. -/
theorem mapM_later {f : α → Compile β} {Q : α → β → Repository → Prop}
    (hQ : ∀ a b s u, Later K s u → Q a b s → Q a b u) :
    ∀ {as : List α} {s : Repository} {bs : List β},
    (∀ a ∈ as, ∀ s b u, Sound (fun _ => True) s → (f a).result s = (.ok b, u) →
      Later K s u ∧ Q a b u) →
    Sound (fun _ => True) s → (as.mapM f).result s = (.ok bs, u) →
    Later K s u ∧ (∀ b ∈ bs, ∃ a ∈ as, Q a b u) ∧ ∀ a ∈ as, ∃ b ∈ bs, Q a b u
  | [], s, bs, _, hs, h => by
    cases h
    exact ⟨.refl hs, fun _ hb => (List.not_mem_nil hb).elim, fun _ ha => (List.not_mem_nil ha).elim⟩
  | a :: as, s, bs, hf, hs, h => by
    rw [List.mapM_cons] at h
    obtain ⟨b, t, hb, h⟩ := Compile.ok_of_bind h
    obtain ⟨rest, t', hrest, h⟩ := Compile.ok_of_bind h
    cases h
    obtain ⟨hl, hq⟩ := hf a List.mem_cons_self s b t hs hb
    obtain ⟨hl', hfrom, hto⟩ := mapM_later hQ (fun a' ha' => hf a' (List.mem_cons_of_mem a ha'))
      hl.sound hrest
    have hq := hQ a b _ _ hl' hq
    refine ⟨hl.trans hl', fun b' hb' => ?_, fun a' ha' => ?_⟩
    · rcases List.mem_cons.mp hb' with rfl | hb'
      · exact ⟨a, List.mem_cons_self, hq⟩
      · obtain ⟨a', ha', hq'⟩ := hfrom b' hb'
        exact ⟨a', List.mem_cons_of_mem a ha', hq'⟩
    · rcases List.mem_cons.mp ha' with rfl | ha'
      · exact ⟨b, List.mem_cons_self, hq⟩
      · obtain ⟨b', hb', hq'⟩ := hto a' ha'
        exact ⟨b', List.mem_cons_of_mem b hb', hq'⟩

end ServiceApi
