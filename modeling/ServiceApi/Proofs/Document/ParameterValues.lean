import ServiceApi.Document.Format
import ServiceApi.Proofs.Document.Parameters

/-! # What API parameters hold

A parameter is sent in the path or the query because its type is a scalar, or else because it is
repeated and its items are scalars. What is written of it, and what its default value is compared
with, is asked in the other order: the items first, if it is repeated at all. Both come to one type,
and a scalar, unless the parameter is of a scalar type that is repeated as well; then its items
count, whatever they are. -/

namespace ServiceApi

variable {p : ParameterConfig} {c : Catalog} {rules : SerializationRules} {m : MethodScope}
  {base item value : TypeExpr} {ft : FieldType} {q : SentParameter} {ps : List SentParameter}
  {name : String}

/-- No format writes values of the type as objects or arrays. -/
structure FieldType.IsFlat (ft : FieldType) : Prop where
  legacy : Legacy.typeName ft ≠ "object"
  dialect (d : Dialect) : ("type", .str "object") ∉ d.scalar ft ∧
    ("type", .str "array") ∉ d.scalar ft

theorem FieldType.isFlat_iff : ft.IsFlat ↔ ft.isScalar = true := by
  constructor
  · intro h
    cases ft with
    | object | array => exact absurd rfl h.legacy
    | _ => rfl
  · intro h
    cases ft with
    | object | array => cases h
    | _ =>
      refine ⟨by decide, fun d => ?_⟩
      cases d <;> simp [Dialect.scalar, discovery, openApi]

theorem Catalog.isParameterType_iff {t : TypeExpr} :
    c.isParameterType t = true ↔ ∃ ft, c.fieldType? t = some ft ∧ ft.isScalar = true := by
  rw [isParameterType, Option.any_eq_true]

namespace ParameterConfig

/-- Items are asked for of what the parameter is serialized as, just if this is repeated. -/
theorem itemBaseType?_eq_none_iff (hbase : p.baseType c rules = .ok base) :
    p.itemBaseType? c rules = .ok none ↔ c.isArray base = false := by
  have hitem? : p.itemType? c rules = .ok (c.arrayItem? base) := by rw [itemType?, hbase]; rfl
  rw [Catalog.isArray, Option.isSome_eq_false_iff, Option.isNone_iff_eq_none, itemBaseType?, hitem?]
  cases c.arrayItem? base with
  | none => exact iff_of_true rfl rfl
  | some item =>
    refine iff_of_false (fun h => ?_) nofun
    obtain ⟨_, ⟨⟩, h⟩ := ok_of_bind h
    obtain ⟨names, -, h⟩ := ok_of_bind h
    obtain ⟨type, -, h⟩ := ok_of_bind h
    cases h

/-- What makes a parameter an API parameter. -/
theorem exists_of_apiParameter (h : p.classification c rules = .ok .apiParameter) :
    ∃ base, p.baseType c rules = .ok base ∧ (c.isParameterType base = true ∨
      ∃ item, p.itemBaseType? c rules = .ok (some item) ∧ c.isParameterType item = true) := by
  rw [classification] at h
  split at h
  · cases h
  · split at h
    · cases h
    · obtain ⟨base, hbase, h⟩ := ok_of_bind h
      refine ⟨base, hbase, ?_⟩
      split at h
      · cases h
      · split at h
        · exact .inl ‹_›
        · obtain ⟨item, hitem, h⟩ := ok_of_bind h
          cases item with
          | none => cases h
          | some item =>
            dsimp only at h
            split at h
            · cases h
            · split at h
              · exact .inr ⟨item, hitem, ‹_›⟩
              · cases h

/-- The values of an API parameter are scalars, unless it is of a scalar type that is repeated as
well and has other items. -/
theorem exists_scalar_value_iff (h : p.classification c rules = .ok .apiParameter)
    (hbase : p.baseType c rules = .ok base) :
    (∃ value, p.valueType c rules = .ok value ∧ c.isParameterType value = true) ↔
      (c.isParameterType base = true → c.isArray base = true →
        ∃ item, p.itemBaseType? c rules = .ok (some item) ∧ c.isParameterType item = true) := by
  have hitems {item : TypeExpr} (hitem : p.itemBaseType? c rules = .ok (some item)) :
      p.valueType c rules = .ok item := valueType_eq_ok_iff.mpr (.inl hitem)
  constructor
  · rintro ⟨value, hvalue, hscalar⟩ - harray
    rcases valueType_eq_ok_iff.mp hvalue with hitem | ⟨hnone, -⟩
    · exact ⟨value, hitem, hscalar⟩
    · rw [(itemBaseType?_eq_none_iff hbase).mp hnone] at harray
      cases harray
  · intro hone
    obtain ⟨base', hbase', hscalar | ⟨item, hitem, hscalar⟩⟩ := exists_of_apiParameter h
    · cases hbase.symm.trans hbase'
      cases harray : c.isArray base with
      | true =>
        obtain ⟨item, hitem, hscalar⟩ := hone hscalar harray
        exact ⟨item, hitems hitem, hscalar⟩
      | false =>
        have hnone := (itemBaseType?_eq_none_iff hbase).mpr harray
        exact ⟨base, valueType_eq_ok_iff.mpr (.inr ⟨hnone, hbase⟩), hscalar⟩
    · exact ⟨item, hitems hitem, hscalar⟩

/-- The default value of an API parameter is compared with the type of its values. -/
theorem checkDefault_eq (h : p.classification c rules = .ok .apiParameter)
    (hvalue : p.valueType c rules = .ok value)
    {text : String} (hdefault : p.defaultValue = some text) (location : String) :
    p.checkDefault c rules location =
      if isValueOf c value text then .ok ()
        else .error (.invalidDefault location p.displayName text value) := by
  rw [checkDefault, hdefault]
  dsimp only
  rw [h, hvalue]
  rfl

end ParameterConfig

namespace MethodScope

theorem exists_sentParameter? (h : p.classification m.api.catalog m.api.rules = .ok .apiParameter)
    (hname : p.name = some name) (hvalue : p.valueType m.api.catalog m.api.rules = .ok value)
    (hft : m.api.catalog.fieldType? value = some ft) :
    ∃ q, m.sentParameter? p = .ok (some q) ∧ q.name = name ∧ q.fieldType = ft := by
  rw [sentParameter?, h, hname]
  rcases ParameterConfig.valueType_eq_ok_iff.mp hvalue with hitem | ⟨hnone, hbase⟩
  · rw [hitem]
    dsimp only [bind, Except.bind, pure, Except.pure]
    rw [hft]
    exact ⟨_, rfl, rfl, rfl⟩
  · rw [hnone, hbase]
    dsimp only [bind, Except.bind]
    rw [hft]
    exact ⟨_, rfl, rfl, rfl⟩

/-- The values of `p` are of the type `value`: this is what is written of the parameter, and what
its default value is compared with. -/
structure SendsAs (m : MethodScope) (p : ParameterConfig) (value : TypeExpr)
    (ft : FieldType) : Prop where
  type : p.valueType m.api.catalog m.api.rules = .ok value
  fieldType : m.api.catalog.fieldType? value = some ft
  sent : ∀ name, p.name = some name → ∃ q, m.sentParameter? p = .ok (some q) ∧
    q.name = name ∧ q.fieldType = ft
  checked : ∀ text, p.defaultValue = some text → ∀ location,
    p.checkDefault m.api.catalog m.api.rules location =
      if ParameterConfig.isValueOf m.api.catalog value text then .ok ()
      else .error (.invalidDefault location p.displayName text value)

theorem sendsAs (h : p.classification m.api.catalog m.api.rules = .ok .apiParameter)
    (hvalue : p.valueType m.api.catalog m.api.rules = .ok value)
    (hft : m.api.catalog.fieldType? value = some ft) :
    m.SendsAs p value ft where
  type := hvalue
  fieldType := hft
  sent _ hname := exists_sentParameter? h hname hvalue hft
  checked _ hdefault location := p.checkDefault_eq h hvalue hdefault location

/-- Whatever is sent comes from an API parameter. -/
theorem exists_of_mem_sentParameters (h : m.sentParameters = .ok ps) (hq : q ∈ ps) :
    ∃ p ∈ m.method.parameters, m.sentParameter? p = .ok (some q) := by
  rw [sentParameters] at h
  cases hsent : m.method.parameters.mapM m.sentParameter? with
  | error e => rw [hsent] at h; cases h
  | ok sent =>
    rw [hsent] at h
    cases h
    exact (mapM_ok hsent).1 _ (List.reduceOption_mem_iff.mp ((m.arrange_perm _).mem_iff.mp hq))

/-- The values of an API parameter are scalars in every format, and its default value is compared
with them as such, unless its type is a scalar that is repeated as well and has other items. -/
theorem api_parameters_are_scalar :
    (∀ p, p.classification m.api.catalog m.api.rules = .ok .apiParameter →
      ∃ base, p.baseType m.api.catalog m.api.rules = .ok base ∧
        ((∃ value ft, m.SendsAs p value ft ∧ ft.IsFlat) ↔
          (m.api.catalog.isParameterType base = true → m.api.catalog.isArray base = true →
            ∃ item, p.itemBaseType? m.api.catalog m.api.rules = .ok (some item) ∧
              m.api.catalog.isParameterType item = true))) ∧
    ∀ ps, m.sentParameters = .ok ps → ∀ q ∈ ps, q.fieldType.IsFlat ∨
      ∃ p ∈ m.method.parameters, ∃ base, p.name = some q.name ∧
        p.baseType m.api.catalog m.api.rules = .ok base ∧
        m.api.catalog.isParameterType base = true ∧ m.api.catalog.isArray base = true := by
  refine ⟨fun p h => ?_, fun ps hps q hq => ?_⟩
  · obtain ⟨base, hbase, -⟩ := ParameterConfig.exists_of_apiParameter h
    refine ⟨base, hbase, ?_⟩
    rw [← ParameterConfig.exists_scalar_value_iff h hbase]
    constructor
    · rintro ⟨value, ft, hsends, hflat⟩
      exact ⟨value, hsends.type, Catalog.isParameterType_iff.mpr ⟨ft, hsends.fieldType,
        FieldType.isFlat_iff.mp hflat⟩⟩
    · rintro ⟨value, hvalue, hscalar⟩
      obtain ⟨ft, hft, hscalar⟩ := Catalog.isParameterType_iff.mp hscalar
      exact ⟨value, ft, sendsAs h hvalue hft, FieldType.isFlat_iff.mpr hscalar⟩
  · obtain ⟨p, hp, hsent⟩ := exists_of_mem_sentParameters hps hq
    obtain ⟨-, -, -, ⟨⟩⟩ | ⟨h, ⟨-, ⟨⟩⟩ | ⟨_, value, hname, hvalue, hft, -, ⟨⟩⟩⟩ :=
      sentParameter?_cases hsent
    obtain ⟨base, hbase, -⟩ := ParameterConfig.exists_of_apiParameter h
    by_cases hboth : m.api.catalog.isParameterType base = true ∧ m.api.catalog.isArray base = true
    · exact .inr ⟨p, hp, base, hname, hbase, hboth⟩
    · obtain ⟨value', hvalue', hscalar⟩ := (ParameterConfig.exists_scalar_value_iff h hbase).mpr
        fun hscalar harray => absurd ⟨hscalar, harray⟩ hboth
      cases hvalue.symm.trans hvalue'
      obtain ⟨ft, hft', hscalar⟩ := Catalog.isParameterType_iff.mp hscalar
      cases hft.symm.trans hft'
      exact .inl (FieldType.isFlat_iff.mpr hscalar)

end MethodScope

/-- Palettes are enumerations, and whatever else `more` says. -/
def palettes (more : List TypeExpr) : Catalog :=
  [{ name := "Item", properties := [{ name := "label", type := .raw "String" }] },
    { name := "Palette", kind := .enumeration, enumConstants := ["RED", "BLUE"],
      interfaces := more }].foldl Catalog.addClass .builtin

/-- Paints in colors of the given type. -/
def paint (colors : TypeExpr) (choice : String) : MethodConfig :=
  { endpoint := {
      serviceClass := "Studio", declaringClass := "Studio", name := "paint"
      parameterTypes := [colors] }
    name := "studio.paint", httpMethod := "GET", path := "paint", impliedResource := none
    parameters := [{ name := some "colors", type := colors, defaultValue := some choice }] }

def studioConfig (more : List TypeExpr) (colors : TypeExpr) (choice : String) : ApiConfig :=
  (ApiConfig.default ⟨"studio", palettes more⟩ {} "Studio").setMethods <|
    OrderedMap.empty.insert (paint colors choice).endpoint.key (paint colors choice)

namespace MethodScope

/-- Lists of palettes are sent as palettes. -/
theorem api_parameters_are_scalar_palettes :
    let colors : TypeExpr := .named "List" [.raw "Palette"]
    let m : MethodScope := ⟨studioConfig [] colors "RED", paint colors "RED"⟩
    ∃ p ∈ m.method.parameters, p.classification m.api.catalog m.api.rules = .ok .apiParameter ∧
      ∃ value ft, m.SendsAs p value ft ∧ ft.IsFlat ∧ value = .raw "Palette" := by
  intro colors m
  let p : ParameterConfig := { name := some "colors", type := colors, defaultValue := some "RED" }
  have hclass : p.classification m.api.catalog m.api.rules = .ok .apiParameter := by rfl
  have hvalue : p.valueType m.api.catalog m.api.rules = .ok (.raw "Palette") := by rfl
  obtain ⟨base, hbase, hiff⟩ := api_parameters_are_scalar.1 p hclass
  have hbase' : p.baseType m.api.catalog m.api.rules = .ok colors := by rfl
  cases hbase.symm.trans hbase'
  obtain ⟨value, ft, hsends, hflat⟩ := hiff.mpr fun hscalar => absurd hscalar (by decide +kernel)
  cases hvalue.symm.trans hsends.type
  exact ⟨p, List.mem_singleton_self p, hclass, _, ft, hsends, hflat, rfl⟩

/-- A palette that is a collection of items as well is an API parameter for being an enumeration,
and yet it is sent as any number of objects. No default value is refused, whether or not the
enumeration has it. -/
theorem a_palette_is_sent_as_objects :
    let colors : TypeExpr := .raw "Palette"
    let config := studioConfig [.named "Collection" [.raw "Item"]] colors "GREEN"
    let m : MethodScope := ⟨config, paint colors "GREEN"⟩
    Validate.configs 9 [config] = .ok () ∧ m ∈ activeMethods [config] ∧
      ∃ p, m.method.parameters = [p] ∧ p.classification m.api.catalog m.api.rules =
        .ok .apiParameter ∧ p.valueType m.api.catalog m.api.rules = .ok (.raw "Item") ∧
        p.checkDefault m.api.catalog m.api.rules m.method.endpoint.qualifiedName = .ok () ∧
        m.sentParameters.toOption.map (·.map (·.fieldType)) = some [.object] ∧
          ¬ FieldType.object.IsFlat := by
  intro colors config m
  obtain ⟨⟨⟩, hvalid⟩ : ∃ r, Validate.configs 9 [config] = .ok r :=
    exists_of_isOk (by decide +kernel)
  exact ⟨hvalid, List.mem_singleton_self m, _, rfl, by rfl, by rfl, by rfl, by decide +kernel,
    fun hflat => hflat.legacy rfl⟩

end MethodScope

end ServiceApi
