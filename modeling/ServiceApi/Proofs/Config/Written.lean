import ServiceApi.Catalog.Canonical
import ServiceApi.Config.Write
import ServiceApi.Proofs.Json.Compact

/-! # What is written has no literals

Configurations and catalogs hold texts, truth values and integers only. So the texts of several of
them can be written one after the other, and are told apart again. -/

namespace ServiceApi

open Json

namespace Json

@[simp] theorem realFree_strs (texts : List String) : RealFree (strs texts) := by
  simp [strs]

@[simp] theorem realFree_list {α : Type} (f : α → Json) (as : List α) :
    RealFree (Json.list f as) ↔ ∀ a ∈ as, (f a).RealFree := by
  simp [Json.list]

@[simp] theorem realFree_option {α : Type} (f : α → Json) (o : Option α) :
    RealFree (option f o) ↔ ∀ a ∈ o, (f a).RealFree := by
  cases o <;> simp [option]

@[simp] theorem realFree_text? (o : Option String) : RealFree (text? o) := by simp [text?]

@[simp] theorem realFree_bool? (o : Option Bool) : RealFree (bool? o) := by simp [bool?]

@[simp] theorem realFree_int? (o : Option Int) : RealFree (int? o) := by simp [int?]

@[simp] theorem realFree_strs? (o : Option (List String)) : RealFree (strs? o) := by simp [strs?]

theorem realFree_obj_map {α : Type} {f : α → String × Json} (h : ∀ a, (f a).2.RealFree)
    (as : List α) : RealFree (.obj (as.map f)) :=
  (realFree_obj _).mpr (List.forall_mem_map.mpr fun a _ => h a)

end Json

/-! ## Configurations -/

@[simp] theorem TypeExpr.realFree_toJson (t : TypeExpr) : t.toJson.RealFree := realFree_str _

@[simp] theorem Issuers.realFree_toJson (issuers : Issuers) : issuers.toJson.RealFree :=
  realFree_obj_map (fun _ => by simp [Issuer.toJson]) _

@[simp] theorem IssuerAudiences.realFree_toJson (audiences : IssuerAudiences) :
    audiences.toJson.RealFree := realFree_obj_map (fun _ => realFree_strs _) _

@[simp] theorem MethodConfig.realFree_toJson (m : MethodConfig) : m.toJson.RealFree := by
  simp [toJson, EndpointMethod.toJson, AuthLevel.toJson, ScopeExpression.toJson, MetricCost.toJson,
    ParameterConfig.toJson]

@[simp] theorem ClassConfig.realFree_toJson (c : ClassConfig) : c.toJson.RealFree := by
  simp [toJson, AuthLevel.toJson, ScopeExpression.toJson]

theorem ApiConfig.realFree_toJson (a : ApiConfig) : a.toJson.RealFree := by
  simp [toJson, AuthLevel.toJson, ScopeExpression.toJson, CookieAuth.toJson, CacheControl.toJson,
    CacheKind.toJson, FrontendLimits.toJson, LimitRule.toJson, PackageNaming.toJson,
    SerializationRules.toJson, Serializer.toJson, LimitMetric.toJson]

/-! ## Catalogs -/

@[simp] theorem IssuerAudience.realFree_toJson (i : IssuerAudience) : i.toJson.RealFree := by
  simp [toJson]

@[simp] theorem ApiAnnotation.realFree_toJson (a : ApiAnnotation) : a.toJson.RealFree := by
  simp [toJson, AuthLevel.toJson, Issuer.toJson, PackageNamingAnnotation.toJson,
    CookieAuthAnnotation.toJson, CacheControlAnnotation.toJson, CacheKind.toJson,
    FrontendLimitsAnnotation.toJson, LimitRule.toJson, LimitMetric.toJson]

@[simp] theorem MethodDecl.realFree_toJson (m : MethodDecl) : m.toJson.RealFree := by
  simp [toJson, ParameterDecl.toJson, MethodAnnotation.toJson, AuthLevel.toJson, MetricCost.toJson]

theorem ClassDecl.realFree_toJson (c : ClassDecl) : c.toJson.RealFree := by
  simp [toJson, PropertyDecl.toJson, PropertyAnnotation.toJson, ClassAnnotation.toJson,
    AuthLevel.toJson]

theorem TransformerDecl.realFree_toJson (t : TransformerDecl) : t.toJson.RealFree := by
  simp [toJson, ResourceSchema.toJson, ResourceProperty.toJson]

theorem ServiceModel.realFree_toJson (m : ServiceModel) : m.toJson.RealFree := by
  simp [toJson, ClassDecl.realFree_toJson, TransformerDecl.realFree_toJson]

theorem Catalog.realFree_toJson (c : Catalog) : c.toJson.RealFree := by
  rw [toJson, realFree_arr]
  simp only [List.forall_mem_cons, List.not_mem_nil, false_implies, implies_true, and_true]
  exact ⟨realFree_obj_map (fun e => e.2.realFree_toJson) _,
    realFree_obj_map (fun e => e.2.realFree_toJson) _⟩

end ServiceApi
