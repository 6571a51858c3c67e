import ServiceApi.Model.File
import ServiceApi.Proofs.Config.Written
import ServiceApi.Proofs.Model.Reading

/-! # Service models are read back

Every record is written with all its fields, and each field is read by the reader that its record
has for it. So a model is read back from its own compact text, if its types were read of some text
and its integers are within the ranges of their fields. -/

namespace ServiceApi

open Node

/-! ## Ranges -/

def IsInt32 (n : Int) : Prop := -0x80000000 ≤ n ∧ n ≤ 0x7FFFFFFF

def IsInt64 (n : Int) : Prop := -0x8000000000000000 ≤ n ∧ n ≤ 0x7FFFFFFFFFFFFFFF

instance : DecidablePred IsInt32 := fun _ => inferInstanceAs (Decidable (_ ∧ _))

instance : DecidablePred IsInt64 := fun _ => inferInstanceAs (Decidable (_ ∧ _))

theorem IsInt64.fits {n : Int} (h : IsInt64 n) : Node.isInt64 n = true := by
  obtain ⟨hlo, hhi⟩ := h
  rw [Node.isInt64, Bool.and_eq_true, decide_eq_true_eq, decide_eq_true_eq]
  omega

theorem IsInt32.isInt64 {n : Int} (h : IsInt32 n) : IsInt64 n := by
  obtain ⟨hlo, hhi⟩ := h
  constructor <;> omega

theorem Node.Reads.int32 {n : Int} (h : IsInt32 n) : Reads asInt32 (.int n) n :=
  .int h.1 h.2 h.isInt64.fits

theorem Node.Reads.int64 {n : Int} (h : IsInt64 n) : Reads asInt64 (.int n) n := .int h.1 h.2 h.fits

theorem Node.Returns.int32? {fs : List (String × Json)} {name : String} {n? : Option Int}
    (hname : fs.lookup name = some (Json.int? n?)) (h : ∀ n ∈ n?, IsInt32 n) :
    Returns (Fields.optional (Json.fieldNodes fs) name asInt32) n? :=
  .optional hname (by simp) fun n hn => .int32 (h n hn)

/-- The type was read of some text. -/
def TypeExpr.IsRead (t : TypeExpr) : Prop := ∃ s, TypeExpr.parse s = .ok t

theorem TypeExpr.isRead_iff {t : TypeExpr} : t.IsRead ↔ t.Spellable :=
  ⟨fun ⟨_, h⟩ => (parse_eq_ok_iff.mp h).1, fun h => ⟨t.text, parse_text_iff.mpr h⟩⟩

instance : DecidablePred TypeExpr.IsRead := fun _ => decidable_of_iff' _ TypeExpr.isRead_iff

/-! The records below say of which fields anything is asked: of integers, and of types. -/

def CacheControlAnnotation.Fits (a : CacheControlAnnotation) : Prop := ∀ n ∈ a.maxAge, IsInt32 n

instance : DecidablePred CacheControlAnnotation.Fits :=
  fun _ => inferInstanceAs (Decidable (∀ _ ∈ _, _))

@[mk_iff]
structure LimitRule.Fits (r : LimitRule) : Prop where
  qps : IsInt32 r.qps
  userQps : IsInt32 r.userQps
  daily : IsInt32 r.daily

instance : DecidablePred LimitRule.Fits := fun _ => decidable_of_iff' _ (LimitRule.fits_iff _)

@[mk_iff]
structure FrontendLimitsAnnotation.Fits (a : FrontendLimitsAnnotation) : Prop where
  unregisteredUserQps : ∀ n ∈ a.unregisteredUserQps, IsInt32 n
  unregisteredQps : ∀ n ∈ a.unregisteredQps, IsInt32 n
  unregisteredDaily : ∀ n ∈ a.unregisteredDaily, IsInt32 n
  rules : ∀ rules ∈ a.rules, ∀ r ∈ rules, r.Fits

instance : DecidablePred FrontendLimitsAnnotation.Fits := fun _ =>
  decidable_of_iff' _ ( FrontendLimitsAnnotation.fits_iff _)

@[mk_iff]
structure ApiAnnotation.Fits (a : ApiAnnotation) : Prop where
  cacheControl : ∀ x ∈ a.cacheControl, x.Fits
  frontendLimits : ∀ x ∈ a.frontendLimits, x.Fits
  limitMetrics : ∀ metrics ∈ a.limitMetrics, ∀ m ∈ metrics, IsInt64 m.limit

instance : DecidablePred ApiAnnotation.Fits :=
  fun _ => decidable_of_iff' _ ( ApiAnnotation.fits_iff _)

def MethodAnnotation.Fits (a : MethodAnnotation) : Prop :=
  ∀ costs ∈ a.metricCosts, ∀ c ∈ costs, IsInt32 c.cost

instance : DecidablePred MethodAnnotation.Fits := fun _ => inferInstanceAs (Decidable (∀ _ ∈ _, _))

@[mk_iff]
structure MethodDecl.Fits (m : MethodDecl) : Prop where
  params : ∀ p ∈ m.params, p.type.IsRead
  returnType : ∀ t ∈ m.returnType, t.IsRead
  api : ∀ a ∈ m.api, a.Fits

instance : DecidablePred MethodDecl.Fits := fun _ => decidable_of_iff' _ (MethodDecl.fits_iff _)

@[mk_iff]
structure ClassDecl.Fits (c : ClassDecl) : Prop where
  superclass : ∀ t ∈ c.superclass, t.IsRead
  interfaces : ∀ t ∈ c.interfaces, t.IsRead
  properties : ∀ p ∈ c.properties, p.type.IsRead
  api : ∀ a ∈ c.api, a.Fits
  methods : ∀ m ∈ c.methods, m.Fits

instance : DecidablePred ClassDecl.Fits := fun _ => decidable_of_iff' _ (ClassDecl.fits_iff _)

@[mk_iff]
structure TransformerDecl.Fits (t : TransformerDecl) : Prop where
  source : t.source.IsRead
  target : t.target.IsRead
  resource : ∀ s ∈ t.resource, ∀ p ∈ s.properties, p.type.IsRead

instance : DecidablePred TransformerDecl.Fits :=
  fun _ => decidable_of_iff' _ (TransformerDecl.fits_iff _)

@[mk_iff]
structure ServiceModel.Fits (m : ServiceModel) : Prop where
  classes : ∀ c ∈ m.classes, c.Fits
  transformers : ∀ t ∈ m.transformers, t.Fits

instance : DecidablePred ServiceModel.Fits := fun _ => decidable_of_iff' _ (ServiceModel.fits_iff _)

/-! ## Annotations

One step for each field, in the order in which the record reads them: `rfl` finds the field that was
written under the name that is asked for, and what was written in it is read by the lemma that
follows. -/

theorem AuthLevel.reads (l : AuthLevel) : Reads AuthLevel.read l.toJson l := by
  cases l <;> exact .variant rfl

theorem Issuer.reads (i : Issuer) : Reads Issuer.read i.toJson i := by
  refine .bind (.fields rfl (by decide)) ?_
  refine .bind (.withDefault rfl (.text i.name)) ?_
  refine .bind (.withDefault rfl (.text i.issuer)) ?_
  refine .bind (.withDefault rfl (.text i.jwksUri)) ?_
  exact .pure i

theorem IssuerAudience.reads (a : IssuerAudience) : Reads IssuerAudience.read a.toJson a := by
  refine .bind (.fields rfl (by decide)) ?_
  refine .bind (.withDefault rfl (.text a.name)) ?_
  refine .bind (.list rfl fun s _ => .text s) ?_
  exact .pure a

theorem PackageNamingAnnotation.reads (a : PackageNamingAnnotation) :
    Reads PackageNamingAnnotation.read a.toJson a := by
  refine .bind (.fields rfl (by decide)) ?_
  iterate 3 refine .bind (.text? rfl) ?_
  exact .pure a

theorem CookieAuthAnnotation.reads (a : CookieAuthAnnotation) :
    Reads CookieAuthAnnotation.read a.toJson a := by
  refine .bind (.fields rfl (by decide)) ?_
  refine .bind (.bool? rfl) ?_
  refine .bind (.strs? rfl) ?_
  exact .pure a

theorem CacheKind.reads (k : CacheKind) :
    Reads (asVariant CacheKind.all CacheKind.name) k.toJson k := by
  cases k <;> exact .variant rfl

theorem CacheControlAnnotation.reads {a : CacheControlAnnotation} (h : a.Fits) :
    Reads CacheControlAnnotation.read a.toJson a := by
  refine .bind (.fields rfl (by decide)) ?_
  refine .bind (.optional rfl (fun _ => Json.str_ne_null _) fun k _ => k.reads) ?_
  refine .bind (.int32? rfl h) ?_
  exact .pure a

theorem LimitRule.reads {r : LimitRule} (h : r.Fits) : Reads LimitRule.read r.toJson r := by
  refine .bind (.fields rfl (by decide)) ?_
  refine .bind (.withDefault rfl (.text r.matchExpr)) ?_
  refine .bind (.withDefault rfl (.int32 h.qps)) ?_
  refine .bind (.withDefault rfl (.int32 h.userQps)) ?_
  refine .bind (.withDefault rfl (.int32 h.daily)) ?_
  refine .bind (.withDefault rfl (.text r.analyticsId)) ?_
  exact .pure r

theorem FrontendLimitsAnnotation.reads {a : FrontendLimitsAnnotation} (h : a.Fits) :
    Reads FrontendLimitsAnnotation.read a.toJson a := by
  refine .bind (.fields rfl (by decide)) ?_
  refine .bind (.int32? rfl h.unregisteredUserQps) ?_
  refine .bind (.int32? rfl h.unregisteredQps) ?_
  refine .bind (.int32? rfl h.unregisteredDaily) ?_
  refine .bind (.list? rfl fun rules hrules r hr => LimitRule.reads (h.rules rules hrules r hr)) ?_
  exact .pure a

theorem LimitMetric.reads {m : LimitMetric} (h : IsInt64 m.limit) :
    Reads LimitMetric.read m.toJson m := by
  refine .bind (.fields rfl (by decide)) ?_
  refine .bind (.withDefault rfl (.text m.name)) ?_
  refine .bind (.withDefault rfl (.text m.displayName)) ?_
  refine .bind (.withDefault rfl (.int64 h)) ?_
  exact .pure m

theorem MetricCost.reads {c : MetricCost} (h : IsInt32 c.cost) :
    Reads MetricCost.read c.toJson c := by
  refine .bind (.fields rfl (by decide)) ?_
  refine .bind (.withDefault rfl (.text c.name)) ?_
  refine .bind (.withDefault rfl (.int32 h)) ?_
  exact .pure c

theorem ApiAnnotation.reads {a : ApiAnnotation} (h : a.Fits) :
    Reads ApiAnnotation.read a.toJson a := by
  refine .bind (.fields rfl (by decide)) ?_
  iterate 8 refine .bind (.text? rfl) ?_
  iterate 4 refine .bind (.bool? rfl) ?_
  refine .bind (.text? rfl) ?_
  refine .bind (.optional rfl (fun _ => Json.str_ne_null _) fun l _ => l.reads) ?_
  iterate 2 refine .bind (.strs? rfl) ?_
  refine .bind (.list? rfl fun _ _ i _ => i.reads) ?_
  refine .bind (.list? rfl fun _ _ i _ => i.reads) ?_
  iterate 3 refine .bind (.strs? rfl) ?_
  refine .bind (.bool? rfl) ?_
  refine .bind (.strs? rfl) ?_
  refine .bind (.optional rfl (fun _ => Json.obj_ne_null _) fun x _ => x.reads) ?_
  refine .bind (.optional rfl (fun _ => Json.obj_ne_null _) fun x _ => x.reads) ?_
  refine .bind (.optional rfl (fun _ => Json.obj_ne_null _) fun x hx =>
    CacheControlAnnotation.reads (h.cacheControl x hx)) ?_
  refine .bind (.optional rfl (fun _ => Json.obj_ne_null _) fun x hx =>
    FrontendLimitsAnnotation.reads (h.frontendLimits x hx)) ?_
  refine .bind (.list? rfl fun ms hms m hm => LimitMetric.reads (h.limitMetrics ms hms m hm)) ?_
  exact .pure a

theorem ClassAnnotation.reads (a : ClassAnnotation) : Reads ClassAnnotation.read a.toJson a := by
  refine .bind (.fields rfl (by decide)) ?_
  refine .bind (.text? rfl) ?_
  refine .bind (.optional rfl (fun _ => Json.str_ne_null _) fun l _ => l.reads) ?_
  iterate 2 refine .bind (.strs? rfl) ?_
  refine .bind (.list? rfl fun _ _ i _ => i.reads) ?_
  iterate 3 refine .bind (.strs? rfl) ?_
  iterate 2 refine .bind (.bool? rfl) ?_
  exact .pure a

theorem MethodAnnotation.reads {a : MethodAnnotation} (h : a.Fits) :
    Reads MethodAnnotation.read a.toJson a := by
  refine .bind (.fields rfl (by decide)) ?_
  iterate 4 refine .bind (.text? rfl) ?_
  refine .bind (.optional rfl (fun _ => Json.str_ne_null _) fun l _ => l.reads) ?_
  iterate 2 refine .bind (.strs? rfl) ?_
  refine .bind (.list? rfl fun _ _ i _ => i.reads) ?_
  iterate 3 refine .bind (.strs? rfl) ?_
  iterate 2 refine .bind (.bool? rfl) ?_
  refine .bind (.list? rfl fun costs hcosts c hc => MetricCost.reads (h costs hcosts c hc)) ?_
  exact .pure a

theorem PropertyAnnotation.reads (a : PropertyAnnotation) :
    Reads PropertyAnnotation.read a.toJson a := by
  refine .bind (.fields rfl (by decide)) ?_
  iterate 2 refine .bind (.text? rfl) ?_
  iterate 2 refine .bind (.bool? rfl) ?_
  exact .pure a

/-! ## Classes -/

theorem PropertyDecl.reads {p : PropertyDecl} (h : p.type.IsRead) :
    Reads PropertyDecl.read p.toJson p := by
  refine .bind (.fields rfl (by decide)) ?_
  refine .bind (.required rfl (.text p.name)) ?_
  refine .bind (.required rfl (.type h)) ?_
  refine .bind (.withDefault rfl (.bool p.readable)) ?_
  refine .bind (.withDefault rfl (.bool p.writable)) ?_
  refine .bind (.optional rfl (fun _ => Json.obj_ne_null _) fun a _ => a.reads) ?_
  exact .pure p

/-- What is written of a parameter beside its type. -/
def ParameterAnnotation.fields (a : ParameterAnnotation) : List (String × Json) := [
  ("name", Json.text? a.name),
  ("nullable", .bool a.nullable),
  ("default_value", Json.text? a.defaultValue),
  ("description", Json.text? a.description)]

theorem ParameterAnnotation.resolveLeaf?_fields (a : ParameterAnnotation) :
    ∀ e ∈ a.fields, resolveLeaf? e.2.node = some e.2.node := by
  have htext (s? : Option String) :
      resolveLeaf? (Json.text? s?).node = some (Json.text? s?).node := by
    cases s? <;> rfl
  simp only [fields, List.forall_mem_cons]
  exact ⟨htext _, rfl, htext _, htext _, fun _ he => (List.not_mem_nil he).elim⟩

/-- The fields beside the type are resolved before they are read, which leaves texts, truth values
and null as they are. -/
theorem ParameterDecl.reads {p : ParameterDecl} (h : p.type.IsRead) :
    Reads ParameterDecl.read p.toJson p := by
  have htype :
      Returns (Fields.pick ["type"] (Json.fieldNodes (("type", p.type.toJson) :: p.api.fields)))
      (Json.fieldNodes [("type", p.type.toJson)]) := .pick rfl (show ["type"].Nodup by decide)
  have hothers : Returns (Fields.pick ["name", "nullable", "default_value", "description"]
      (Json.fieldNodes p.api.fields)) (Json.fieldNodes p.api.fields) :=
    .pick rfl (show ["name", "nullable", "default_value", "description"].Nodup by decide)
  refine .bind .openFields ?_
  refine .bind htype ?_
  refine .bind (fun _ => rfl : Returns nesting Source.json.depth) ?_
  refine .bind (.resolveFields _ p.api.resolveLeaf?_fields) ?_
  refine .bind hothers ?_
  refine .bind (.required rfl (.type h)) ?_
  refine .bind (.text? rfl) ?_
  refine .bind (.withDefault rfl (.bool p.api.nullable)) ?_
  iterate 2 refine .bind (.text? rfl) ?_
  exact .pure p

theorem MethodDecl.reads {m : MethodDecl} (h : m.Fits) : Reads MethodDecl.read m.toJson m := by
  refine .bind (.fields rfl (by decide)) ?_
  refine .bind (.required rfl (.text m.name)) ?_
  refine .bind (.list rfl fun p hp => ParameterDecl.reads (h.params p hp)) ?_
  refine .bind (.optional rfl (fun _ => Json.str_ne_null _)
    fun t ht => .type (h.returnType t ht)) ?_
  refine .bind (.withDefault rfl (.bool m.isPublic)) ?_
  refine .bind (.withDefault rfl (.bool m.isStatic)) ?_
  refine .bind (.optional rfl (fun _ => Json.obj_ne_null _) fun a ha =>
    MethodAnnotation.reads (h.api a ha)) ?_
  exact .pure m

theorem ClassKind.reads (k : ClassKind) :
    Reads (asVariant ClassKind.all ClassKind.name) (.str k.name) k := by
  cases k <;> exact .variant rfl

theorem ClassDecl.reads {c : ClassDecl} (h : c.Fits) : Reads ClassDecl.read c.toJson c := by
  refine .bind (.fields rfl (by decide)) ?_
  refine .bind (.withDefault rfl (.text c.name)) ?_
  refine .bind (.withDefault rfl c.kind.reads) ?_
  refine .bind (.list rfl fun s _ => .text s) ?_
  refine .bind (.optional rfl (fun _ => Json.str_ne_null _)
    fun t ht => .type (h.superclass t ht)) ?_
  refine .bind (.list rfl fun t ht => .type (h.interfaces t ht)) ?_
  refine .bind (.list rfl fun p hp => PropertyDecl.reads (h.properties p hp)) ?_
  refine .bind (.list rfl fun s _ => .text s) ?_
  iterate 2 refine .bind (.text? rfl) ?_
  refine .bind (.optional rfl (fun _ => Json.obj_ne_null _)
    fun a ha => ApiAnnotation.reads (h.api a ha)) ?_
  refine .bind (.optional rfl (fun _ => Json.obj_ne_null _) fun a _ => a.reads) ?_
  refine .bind (.text? rfl) ?_
  refine .bind (.list rfl fun m hm => MethodDecl.reads (h.methods m hm)) ?_
  exact .pure c

/-! ## Transformers -/

theorem ConstructorShape.reads (s : ConstructorShape) :
    Reads (asVariant ConstructorShape.all ConstructorShape.name) (.str s.name) s := by
  cases s <;> exact .variant rfl

theorem ResourceProperty.reads {p : ResourceProperty} (h : p.type.IsRead) :
    Reads ResourceProperty.read p.toJson p := by
  refine .bind (.fields rfl (by decide)) ?_
  refine .bind (.required rfl (.text p.name)) ?_
  refine .bind (.required rfl (.type h)) ?_
  exact .pure p

theorem ResourceSchema.reads {s : ResourceSchema} (h : ∀ p ∈ s.properties, p.type.IsRead) :
    Reads ResourceSchema.read s.toJson s := by
  refine .bind (.fields rfl (by decide)) ?_
  refine .bind (.text? rfl) ?_
  refine .bind (.list rfl fun p hp => ResourceProperty.reads (h p hp)) ?_
  exact .pure s

theorem TransformerDecl.reads {t : TransformerDecl} (h : t.Fits) :
    Reads TransformerDecl.read t.toJson t := by
  have hconstructors : Reads (asList (asVariant ConstructorShape.all ConstructorShape.name))
      (Json.strs (t.constructors.map ConstructorShape.name)) t.constructors := by
    rw [Json.strs, List.map_map]
    exact .list fun s _ => s.reads
  refine .bind (.fields rfl (by decide)) ?_
  refine .bind (.required rfl (.text t.name)) ?_
  refine .bind (.required rfl (.type h.source)) ?_
  refine .bind (.required rfl (.type h.target)) ?_
  refine .bind (.withDefault rfl hconstructors) ?_
  refine .bind (.optional rfl (fun _ => Json.obj_ne_null _) fun s hs =>
    ResourceSchema.reads (h.resource s hs)) ?_
  exact .pure t

theorem ServiceModel.reads {m : ServiceModel} (h : m.Fits) :
    Reads ServiceModel.read m.toJson m := by
  refine .bind (.fields rfl (by decide)) ?_
  refine .bind (.list rfl fun c hc => ClassDecl.reads (h.classes c hc)) ?_
  refine .bind (.list rfl fun t ht => TransformerDecl.reads (h.transformers t ht)) ?_
  refine .bind (.list rfl fun s _ => .text s) ?_
  exact .pure m

/-! ## Texts -/

namespace ServiceModel

/-- Writing a service model and parsing what was written as JSON gives the model again, whatever its
texts are, wherever its integers lie in their ranges and whichever options are left out. -/
theorem written_models_are_read_back {m : ServiceModel} (h : m.Fits) :
    parse .json m.toJson.compact = .ok m := by
  have hnode : Node.ofJson? m.toJson.compact = some m.toJson.node :=
    Json.ofJson?_compact m.realFree_toJson
  have hmodel : ofNode? m.toJson.node = some m := Returns.from? (reads h)
  have hread : ofJson? m.toJson.compact = some m := by rw [ofJson?, hnode, Option.bind_some, hmodel]
  rw [parse]
  simp only [hread]

/-- A model in which every kind of record occurs, with texts that are escaped and integers at their
ends. -/
def shelves : ServiceModel where
  classes := [
    { name := "Shelf"
      typeParams := ["T"]
      superclass := some (.named "Box" [.var "T"])
      interfaces := [.named "Map" [.raw "String", .bounded (.raw "Book")]]
      properties := [
        { name := "books", type := .array (.raw "Book"), writable := false
          api := some { name := some "\"books\"\n", required := some true } }]
      description := some "\\ \x7f ü 𝄞"
      api := some {
        version := some "v1"
        isAbstract := some false
        authLevel := some .optionalContinue
        scopes := some []
        issuers := some [{ name := "i", issuer := "", jwksUri := "https://keys" }]
        issuerAudiences := some [{ name := "i", audiences := ["a", "b"] }]
        packageNaming := some { ownerDomain := some "books.org" }
        cookieAuth := some { allowCookieAuth := some true, blockedRegions := some ["x"] }
        cacheControl := some { kind := some .noCache, maxAge := some (-0x80000000) }
        frontendLimits :=
          some { unregisteredQps := some 0x7FFFFFFF, rules := some [{ qps := 1, userQps := -1 }] }
        limitMetrics := some [{ name := "reads", limit := 0x7FFFFFFFFFFFFFFF }] }
      apiClass := some { resource := some "shelf", audiences := some ["a"] }
      apiReference := some "Other"
      methods := [
        { name := "list"
          params := [{ type := .primitive .int, api := { name := some "limit", nullable := true } },
            { type := .raw "User" }]
          returnType := some (.named "List" [.wildcard])
          isStatic := true
          api := some {
            path := some "\x7bid\x7d"
            metricCosts := some [{ name := "reads", cost := 2 }] } }] },
    { name := "Color", kind := .enumeration, enumConstants := ["RED", "\x01"] }]
  transformers := [
    { name := "ToText", source := .named "Shelf" [.raw "Book"], target := .raw "String"
      constructors := [.rawClass, .typeArgument]
      resource :=
        some { name := some "Text", properties := [{ name := "text", type := .raw "String" }] } }]
  services := ["Shelf", ""]

theorem written_models_are_read_back_shelves :
    shelves.Fits ∧ parse .json shelves.toJson.compact = .ok shelves := by
  have h : shelves.Fits := by decide
  exact ⟨h, written_models_are_read_back h⟩

end ServiceModel

end ServiceApi
