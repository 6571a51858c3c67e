import ServiceApi.Proofs.Document.Descriptors
import ServiceApi.Proofs.Document.Parameters

/-! # Parameters of one name

Nothing keeps a method from declaring two API parameters of one name. What is sent then has the name
twice: the formats that list parameters by name keep the last, and the others have two that nobody
can tell apart. With different names every parameter has a place of its own. -/

namespace ServiceApi

open Json Compile

variable {fuel fuel' : Nat} {configs : List ApiConfig} {m : MethodScope} {ps : List SentParameter}
  {s u : Repository} {json : Json}

namespace Json

variable {before middle after : List (String × Json)} {name : String}

/-- The values of an array; none for any other value. -/
def items : Json → List Json
  | .arr vs => vs
  | _ => []

/-- A field is looked for among the fields that may have its name. -/
theorem Avoids.field_append (hbefore : Avoids [name] before) (hafter : Avoids [name] after) :
    (obj (before ++ (middle ++ after))).field name = (obj middle).field name := by
  have hname : name ∈ [name] := List.mem_singleton_self name
  rw [field, field, fields, fields, List.lookup_append, List.lookup_append, hbefore.lookup hname,
    hafter.lookup hname, Option.none_or, Option.or_none]

@[simp] theorem avoids_flagField {names : List String} (holds : Bool) (h : name ∉ names) :
    Avoids names (flagField name holds) := by
  cases holds <;> simp [flagField, h]

@[simp] theorem avoids_elim {α : Type} {names : List String}
    {f : α → List (String × Json)} (a? : Option α)
    (h : ∀ a, Avoids names (f a)) : Avoids names (a?.elim [] f) := by
  cases a? with
  | none => exact avoids_nil
  | some a => exact h a

@[simp] theorem avoids_when {names : List String} {fields : List (String × Json)}
    {c : Prop} [Decidable c]
    (h : Avoids names fields) : Avoids names (if c then fields else []) := by
  split
  · exact h
  · exact avoids_nil

/-- An object has the entries that it is made from if and only if their keys differ. -/
theorem fields_objOf_eq_iff {es : List (String × Json)} :
    (objOf es).fields = es ↔ (es.map Prod.fst).Nodup := by
  refine ⟨fun h => ?_, fields_objOf⟩
  rw [← h, objOf_eq]
  exact (OrderedMap.ofList es).nodup

end Json

namespace DocumentFormat

/-- The part of what a method is written as that holds its parameters. -/
def parameters (json : Json) : DocumentFormat → Json
  | legacy => (json.field "request").field "parameters"
  | discovery | openApi => json.field "parameters"

/-- Every parameter has a place of its own in what the method is written as: an entry under its
name, or one among items that differ in name or location. -/
def KeepsApart (ps : List SentParameter) (json : Json) : DocumentFormat → Prop
  | legacy => (legacy.parameters json).fields = ps.map fun q => (q.name, Legacy.parameter q)
  | discovery =>
      (discovery.parameters json).fields = ps.map fun q => (q.name, Discovery.parameter q)
  | openApi => (openApi.parameters json).items = ps.map OpenApi.parameter ∧
      ((openApi.parameters json).items.map fun v => (v.fieldText? "name", v.fieldText? "in")).Nodup

end DocumentFormat

theorem Legacy.fields_parameters (hps : m.sentParameters = .ok ps)
    (h : (DocumentFormat.legacy.methodJson fuel m).result s = (.ok json, u)) :
    (DocumentFormat.legacy.parameters json).fields =
      (objOf (ps.map fun q => (q.name, Legacy.parameter q))).fields := by
  obtain ⟨e, t, h, hjson⟩ := Compile.ok_of_bind h
  cases hjson
  obtain ⟨ps', hps', h⟩ := ok_of_ofExcept h
  cases hps.symm.trans hps'
  obtain ⟨body, t, -, h⟩ := Compile.ok_of_bind h
  obtain ⟨response, t', -, h⟩ := Compile.ok_of_bind h
  cases h
  have hheader : Avoids ["request"] (methodHeader m) := by simp [methodHeader]
  have hrequest (fields rest : List (String × Json)) :
      (obj (methodHeader m ++ ("request", obj fields) :: rest)).field "request" = obj fields := by
    rw [field, Json.fields, List.lookup_append,
      hheader.lookup (List.mem_singleton_self _), Option.none_or,
      List.lookup_cons_self, Option.getD_some]
  rw [DocumentFormat.parameters, hrequest]
  cases body <;> cases ps <;> rfl

theorem Discovery.fields_parameters (hps : m.sentParameters = .ok ps)
    (h : (DocumentFormat.discovery.methodJson fuel m).result s = (.ok json, u)) :
    (DocumentFormat.discovery.parameters json).fields =
      (objOf (ps.map fun q => (q.name, Discovery.parameter q))).fields := by
  obtain ⟨ps', hps', h⟩ := ok_of_ofExcept h
  cases hps.symm.trans hps'
  obtain ⟨body, t, -, h⟩ := Compile.ok_of_bind h
  obtain ⟨response, t', -, h⟩ := Compile.ok_of_bind h
  cases h
  rw [DocumentFormat.parameters, List.append_assoc, List.append_assoc, List.append_assoc,
    Avoids.field_append (by simp) (by simp), parameterFields]
  cases ps <;> rfl

theorem OpenApi.items_parameters (hps : m.sentParameters = .ok ps)
    (h : (DocumentFormat.openApi.methodJson fuel m).result s = (.ok json, u)) :
    (DocumentFormat.openApi.parameters json).items = ps.map OpenApi.parameter := by
  obtain ⟨ps', hps', h⟩ := ok_of_ofExcept h
  cases hps.symm.trans hps'
  obtain ⟨body, t, -, h⟩ := Compile.ok_of_bind h
  obtain ⟨response, t', -, h⟩ := Compile.ok_of_bind h
  cases h
  rw [DocumentFormat.parameters, List.append_assoc, List.append_assoc, List.append_assoc,
    Avoids.field_append (by simp) (by simp)]
  cases ps <;> rfl

/-- An item of the list tells what the parameter is called and where it goes. -/
theorem OpenApi.key_parameter (q : SentParameter) :
    ((OpenApi.parameter q).fieldText? "name", (OpenApi.parameter q).fieldText? "in") =
      (some q.name, some q.location.name) := rfl

namespace DocumentFormat

/-- Parameters are kept apart by a format if and only if their names differ. -/
theorem keepsApart_iff (hps : m.sentParameters = .ok ps)
    (hplaces : ∀ q ∈ ps, m.Places q) (format : DocumentFormat)
    (h : (format.methodJson fuel m).result s = (.ok json, u)) :
    format.KeepsApart ps json ↔ (ps.map (·.name)).Nodup := by
  cases format with
  | legacy =>
    rw [KeepsApart, Legacy.fields_parameters hps h, fields_objOf_eq_iff, List.map_map]
    rfl
  | discovery =>
    rw [KeepsApart, Discovery.fields_parameters hps h, fields_objOf_eq_iff, List.map_map]
    rfl
  | openApi =>
    rw [KeepsApart, OpenApi.items_parameters hps h, List.map_map]
    refine (and_iff_right rfl).trans ⟨fun hnodup => ?_, fun hnodup => ?_⟩
    · refine nodup_map_of_nodup_map hnodup fun q hq q' hq' hname => ?_
      rw [Function.comp_apply, Function.comp_apply, OpenApi.key_parameter, OpenApi.key_parameter,
        (hplaces q hq).located, (hplaces q' hq').located, hname]
    · refine nodup_map_of_nodup_map hnodup fun q _ q' _ hkey => ?_
      rw [Function.comp_apply, Function.comp_apply, OpenApi.key_parameter,
        OpenApi.key_parameter] at hkey
      exact Option.some.inj (Prod.mk.inj hkey).1

end DocumentFormat

namespace MethodScope

/-- What is sent goes by the names of the API parameters, which all have one. The names differ if
and only if no two API parameters are declared with one name, and then, and only then, every format
keeps the parameters apart. -/
theorem names_differ_as_declared (hvalid : Validate.configs fuel configs = .ok ())
    (hm : m ∈ activeMethods configs) (h : m.sentParameters = .ok ps) :
    m.apiParameters.map (·.name) = m.apiNames.map some ∧ (ps.map (·.name)).Perm m.apiNames ∧
      ((ps.map (·.name)).Nodup ↔ (m.apiParameters.map (·.name)).Nodup) ∧
      ∀ (format : DocumentFormat) (fuel : Nat) (s u : Repository) (json : Json),
        (format.methodJson fuel m).result s = (.ok json, u) →
          (format.KeepsApart ps json ↔ (m.apiParameters.map (·.name)).Nodup) := by
  have hnamed := (checked_of_ok (Validate.method_of_ok hvalid hm)).named
  obtain ⟨hperm, hplaces⟩ := sentParameters_perm h
  have hdistinct : (ps.map (·.name)).Nodup ↔ (m.apiParameters.map (·.name)).Nodup := by
    rw [hperm.nodup_iff, hnamed, List.nodup_map_iff (Option.some_injective _)]
  refine ⟨hnamed, hperm, hdistinct, fun format fuel s u json hjson => ?_⟩
  rw [← hdistinct]
  exact format.keepsApart_iff h hplaces hjson

theorem names_differ_as_declared_lookUp :
    let m : MethodScope := ⟨libraryConfig "place", lookUp "place"⟩
    Validate.configs 9 [m.api] = .ok () ∧ m ∈ activeMethods [m.api] ∧
      ∃ ps, m.sentParameters = .ok ps ∧ (ps.map (·.name)).Nodup ∧
        ∀ format : DocumentFormat, ∃ json u, (format.methodJson 9 m).result {} = (.ok json, u) ∧
          format.KeepsApart ps json := by
  intro m
  have hm : m ∈ activeMethods [m.api] := List.mem_singleton_self m
  have hdeclared : (m.apiParameters.map (·.name)).Nodup := by decide +kernel
  obtain ⟨⟨⟩, hvalid⟩ : ∃ r, Validate.configs 9 [m.api] = .ok r :=
    exists_of_isOk (by decide +kernel)
  obtain ⟨ps, hps⟩ : ∃ ps, m.sentParameters = .ok ps := exists_of_isOk (by decide +kernel)
  obtain ⟨-, -, hnames, hformats⟩ := names_differ_as_declared hvalid hm hps
  refine ⟨hvalid, hm, ps, hps, hnames.mpr hdeclared, fun format => ?_⟩
  obtain ⟨json, u, hjson⟩ : ∃ json u, (format.methodJson 9 m).result {} = (.ok json, u) :=
    exists_result_of_isOk (by cases format <;> decide +kernel)
  exact ⟨json, u, hjson, (hformats format 9 {} u json hjson).mpr hdeclared⟩

/-- Of a row and a place that is called `row` as well, both are sent, and no format keeps them
apart. -/
theorem parameters_share_a_name :
    let m : MethodScope := ⟨libraryConfig "row", lookUp "row"⟩
    Validate.configs 9 [m.api] = .ok () ∧ m ∈ activeMethods [m.api] ∧
      ∃ ps, m.sentParameters = .ok ps ∧ (ps.map (·.name)).Perm ["row", "row", "shelf"] ∧
        ¬ (ps.map (·.name)).Nodup ∧
        ∀ format : DocumentFormat, ∃ json u, (format.methodJson 9 m).result {} = (.ok json, u) ∧
          ¬ format.KeepsApart ps json := by
  intro m
  have hm : m ∈ activeMethods [m.api] := List.mem_singleton_self m
  have hdeclared : m.apiNames = ["row", "row", "shelf"] := by decide +kernel
  obtain ⟨⟨⟩, hvalid⟩ : ∃ r, Validate.configs 9 [m.api] = .ok r :=
    exists_of_isOk (by decide +kernel)
  obtain ⟨ps, hps⟩ : ∃ ps, m.sentParameters = .ok ps := exists_of_isOk (by decide +kernel)
  obtain ⟨hperm, hplaces⟩ := sentParameters_perm hps
  rw [hdeclared] at hperm
  have htwice : ¬ (ps.map (·.name)).Nodup := by
    rw [hperm.nodup_iff]
    decide
  refine ⟨hvalid, hm, ps, hps, hperm, htwice, fun format => ?_⟩
  obtain ⟨json, u, hjson⟩ : ∃ json u, (format.methodJson 9 m).result {} = (.ok json, u) :=
    exists_result_of_isOk (by cases format <;> decide +kernel)
  exact ⟨json, u, hjson, mt (format.keepsApart_iff hps hplaces hjson).mp htwice⟩

end MethodScope

end ServiceApi
