import ServiceApi.Proofs.Document.Bodies
import ServiceApi.Proofs.Document.Trees

/-! # What methods are written as

In every format a method refers to schemas where its bodies are used, and nowhere else. -/

namespace ServiceApi

open Json Compile Repository

variable {P : String → Prop} {K : SchemaKey → Prop} {s u : Repository}
  {fuel : Nat} {m : MethodScope}

/-- The references that what is written for a method may have. -/
abbrev MayRefer (d : Dialect) (m : MethodScope) (repo : Repository) : String → Prop :=
  RefersFor d repo.slots m.Sends

/-- `u` comes after `s`, and has the schemas of all bodies of the method. -/
structure Written (K : SchemaKey → Prop) (m : MethodScope) (s u : Repository) : Prop where
  later : Later K s u
  held : ∀ key, m.Sends key → ∃ a, Holds u m.api.key.withoutRoot key a

theorem Given.within_use {d : Dialect} {key? : Except ApiError (Option SchemaKey)}
    {given : Option Schema} (h : Given m u key? given)
    (hsends : ∀ key, key? = .ok (some key) → m.Sends key) :
    ∀ b ∈ given, FieldsWithin (MayRefer d m u) (d.use b) := by
  intro b hb
  obtain ⟨key, a, hkey, ha, rfl⟩ := h.schema b hb
  exact fieldsWithin_use fun hany => ⟨key, a, hsends key hkey, ha.slot, hany, rfl⟩

/-- Every format asks for the bodies of a method once its parameters are known, and writes what
comes of that; the bodies may be written as they are used. -/
theorem written_later {β : Type} (d : Dialect) (hK : ∀ key, m.Sends key → K key)
    {write : List SentParameter → Option RequestBody → Option Schema → β} {v : β}
    (hs : Sound (fun _ => True) s)
    (h : Compile.result (do
      let parameters ← Compile.ofExcept m.sentParameters
      let body ← m.requestBody fuel
      let response ← m.responseSchema fuel
      return write parameters body response) s = (.ok v, u)) :
    Written K m s u ∧ ∃ parameters body response, v = write parameters body response ∧
      (∀ b ∈ body, FieldsWithin (MayRefer d m u) (d.use b.schema)) ∧
      ∀ a ∈ response, FieldsWithin (MayRefer d m u) (d.use a) := by
  obtain ⟨parameters, -, h⟩ := ok_of_ofExcept h
  obtain ⟨body, t, hbody, h⟩ := Compile.ok_of_bind h
  obtain ⟨response, t', hresponse, h⟩ := Compile.ok_of_bind h
  cases h
  obtain ⟨hl, hb⟩ := requestBody_later hK hs hbody
  obtain ⟨hl', hr⟩ := responseSchema_later hK hl.sound hresponse
  have hb := hb.later hl'
  refine ⟨⟨hl.trans hl', fun key hkey => ?_⟩, parameters, body, response, rfl, fun b hmem => ?_, ?_⟩
  · exact hkey.elim (hb.held key) (hr.held key)
  · exact hb.within_use (fun key => Or.inl) b.schema (Option.mem_map_of_mem _ hmem)
  · exact hr.within_use fun key => Or.inr

namespace Discovery

@[simp] theorem fieldWithin_parameter (name : String) (p : SentParameter) :
    FieldWithin P name (parameter p) := by
  simp [parameter]

@[simp] theorem fieldsWithin_parameterFields (ps : List SentParameter) :
    FieldsWithin P (parameterFields ps) := by
  simp [parameterFields]

theorem method_later {v : Json} (hK : ∀ key, m.Sends key → K key) (hs : Sound (fun _ => True) s)
    (h : (method fuel m).result s = (.ok v, u)) :
    Written K m s u ∧ ∀ name, FieldWithin (MayRefer .discovery m u) name v := by
  obtain ⟨hl, parameters, body, response, rfl, hrequest, hanswer⟩ :=
    written_later .discovery hK hs h
  refine ⟨hl, fun name => ?_⟩
  simp +contextual [hrequest, hanswer]

end Discovery

namespace Legacy

@[simp] theorem fieldWithin_parameter (name : String) (p : SentParameter) :
    FieldWithin P name (parameter p) := by
  simp [parameter]

@[simp] theorem fieldsWithin_methodHeader (m : MethodScope) : FieldsWithin P (methodHeader m) := by
  simp [methodHeader, AuthLevel.toJson, IssuerAudiences.toJson]

theorem entry_later {e : Entry} (hK : ∀ key, m.Sends key → K key) (hs : Sound (fun _ => True) s)
    (h : (entry fuel m).result s = (.ok e, u)) : Written K m s u ∧
      (∀ name, FieldWithin (MayRefer .discovery m u) name e.method) ∧
      FieldsWithin (MayRefer .discovery m u) e.descriptor := by
  obtain ⟨hl, parameters, body, response, rfl, hrequest, hanswer⟩ :=
    written_later .discovery hK hs h
  refine ⟨hl, fun name => ?_, ?_⟩
  · cases body <;> cases response <;> simp
  · simp +contextual [hrequest, hanswer]

end Legacy

namespace OpenApi

theorem refersWithin_parameter (p : SentParameter) : (parameter p).RefersWithin P := by
  unfold parameter
  rw [refersWithin_obj]
  by_cases h : p.repeated <;> simp [h]

theorem operation_later {v : Json} (hK : ∀ key, m.Sends key → K key)
    (hs : Sound (fun _ => True) s) (h : (operation fuel m).result s = (.ok v, u)) :
    Written K m s u ∧ ∀ name, FieldWithin (MayRefer .openApi m u) name v := by
  obtain ⟨hl, parameters, body, response, rfl, hrequest, hanswer⟩ := written_later .openApi hK hs h
  refine ⟨hl, fun name => ?_⟩
  have hparameters : ∀ p ∈ parameters,
      (parameter p).RefersWithin (MayRefer .openApi m u) :=
    fun p _ => refersWithin_parameter p
  simp +contextual [hrequest, hanswer, hparameters, content, responses, Json.list, refersWithin_obj]

theorem fieldsWithin_addOperation {paths : List (String × Json)} {operation : Json}
    (h : FieldsWithin P paths) (hop : ∀ name, FieldWithin P name operation) :
    FieldsWithin P (addOperation paths m operation) := by
  have hitem : FieldsWithin P ((paths.lookup ("/" ++ m.method.path)).getD (.obj [])).fields := by
    cases hl : paths.lookup ("/" ++ m.method.path) with
    | none => exact fieldsWithin_nil
    | some v => exact (h _ (Entries.mem_of_lookup hl)).2.fields
  refine h.setField ?_
  rw [fieldWithin_obj]
  exact hitem.setField (hop _)

end OpenApi

end ServiceApi
