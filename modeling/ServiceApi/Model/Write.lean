import ServiceApi.Json
import ServiceApi.Model.Declaration
import ServiceApi.TypeExpr.Printer

/-!
# Writing a service model

Every field is written, in the order of the declaration, and null stands for what is left out.
Types are written as their text.
-/

namespace ServiceApi

open Json

def TypeExpr.toJson (t : TypeExpr) : Json := .str t.text

def Json.list {α : Type} (f : α → Json) (xs : List α) : Json := .arr (xs.map f)

def Json.text? : Option String → Json := Json.option .str

def Json.bool? : Option Bool → Json := Json.option .bool

def Json.int? : Option Int → Json := Json.option .int

def Json.strs? : Option (List String) → Json := Json.option Json.strs

def AuthLevel.toJson (l : AuthLevel) : Json := .str l.name

def Issuer.toJson (i : Issuer) : Json :=
  .obj [("name", .str i.name), ("issuer", .str i.issuer), ("jwks_uri", .str i.jwksUri)]

def IssuerAudience.toJson (i : IssuerAudience) : Json :=
  .obj [("name", .str i.name), ("audiences", strs i.audiences)]

def PackageNamingAnnotation.toJson (a : PackageNamingAnnotation) : Json := .obj [
  ("owner_domain", text? a.ownerDomain),
  ("owner_name", text? a.ownerName),
  ("package_path", text? a.packagePath)]

def CookieAuthAnnotation.toJson (a : CookieAuthAnnotation) : Json := .obj [
  ("allow_cookie_auth", bool? a.allowCookieAuth),
  ("blocked_regions", strs? a.blockedRegions)]

def CacheKind.toJson (k : CacheKind) : Json := .str k.name

def CacheControlAnnotation.toJson (a : CacheControlAnnotation) : Json := .obj [
  ("type", option CacheKind.toJson a.kind),
  ("max_age", int? a.maxAge)]

def LimitRule.toJson (r : LimitRule) : Json := .obj [
  ("match", .str r.matchExpr),
  ("qps", .int r.qps),
  ("user_qps", .int r.userQps),
  ("daily", .int r.daily),
  ("analytics_id", .str r.analyticsId)]

def FrontendLimitsAnnotation.toJson (a : FrontendLimitsAnnotation) : Json := .obj [
  ("unregistered_user_qps", int? a.unregisteredUserQps),
  ("unregistered_qps", int? a.unregisteredQps),
  ("unregistered_daily", int? a.unregisteredDaily),
  ("rules", option (list LimitRule.toJson) a.rules)]

def LimitMetric.toJson (m : LimitMetric) : Json :=
  .obj [("name", .str m.name), ("display_name", .str m.displayName), ("limit", .int m.limit)]

def MetricCost.toJson (c : MetricCost) : Json :=
  .obj [("name", .str c.name), ("cost", .int c.cost)]

def ApiAnnotation.toJson (a : ApiAnnotation) : Json := .obj [
  ("name", text? a.name),
  ("canonical_name", text? a.canonicalName),
  ("version", text? a.version),
  ("title", text? a.title),
  ("description", text? a.description),
  ("documentation_link", text? a.documentationLink),
  ("root", text? a.root),
  ("backend_root", text? a.backendRoot),
  ("is_abstract", bool? a.isAbstract),
  ("default_version", bool? a.defaultVersion),
  ("discoverable", bool? a.discoverable),
  ("use_datastore_for_additional_config", bool? a.useDatastore),
  ("resource", text? a.resource),
  ("auth_level", option AuthLevel.toJson a.authLevel),
  ("scopes", strs? a.scopes),
  ("audiences", strs? a.audiences),
  ("issuers", option (list Issuer.toJson) a.issuers),
  ("issuer_audiences", option (list IssuerAudience.toJson) a.issuerAudiences),
  ("client_ids", strs? a.clientIds),
  ("authenticators", strs? a.authenticators),
  ("peer_authenticators", strs? a.peerAuthenticators),
  ("api_key_required", bool? a.apiKeyRequired),
  ("transformers", strs? a.transformers),
  ("namespace", option PackageNamingAnnotation.toJson a.packageNaming),
  ("auth", option CookieAuthAnnotation.toJson a.cookieAuth),
  ("cache_control", option CacheControlAnnotation.toJson a.cacheControl),
  ("frontend_limits", option FrontendLimitsAnnotation.toJson a.frontendLimits),
  ("limit_definitions", option (list LimitMetric.toJson) a.limitMetrics)]

def ClassAnnotation.toJson (a : ClassAnnotation) : Json := .obj [
  ("resource", text? a.resource),
  ("auth_level", option AuthLevel.toJson a.authLevel),
  ("scopes", strs? a.scopes),
  ("audiences", strs? a.audiences),
  ("issuer_audiences", option (list IssuerAudience.toJson) a.issuerAudiences),
  ("client_ids", strs? a.clientIds),
  ("authenticators", strs? a.authenticators),
  ("peer_authenticators", strs? a.peerAuthenticators),
  ("use_datastore_for_additional_config", bool? a.useDatastore),
  ("api_key_required", bool? a.apiKeyRequired)]

def MethodAnnotation.toJson (a : MethodAnnotation) : Json := .obj [
  ("name", text? a.name),
  ("description", text? a.description),
  ("path", text? a.path),
  ("http_method", text? a.httpMethod),
  ("auth_level", option AuthLevel.toJson a.authLevel),
  ("scopes", strs? a.scopes),
  ("audiences", strs? a.audiences),
  ("issuer_audiences", option (list IssuerAudience.toJson) a.issuerAudiences),
  ("client_ids", strs? a.clientIds),
  ("authenticators", strs? a.authenticators),
  ("peer_authenticators", strs? a.peerAuthenticators),
  ("ignored", bool? a.ignored),
  ("api_key_required", bool? a.apiKeyRequired),
  ("metric_costs", option (list MetricCost.toJson) a.metricCosts)]

def PropertyAnnotation.toJson (a : PropertyAnnotation) : Json := .obj [
  ("name", text? a.name),
  ("description", text? a.description),
  ("ignored", bool? a.ignored),
  ("required", bool? a.required)]

def PropertyDecl.toJson (p : PropertyDecl) : Json := .obj [
  ("name", .str p.name),
  ("type", p.type.toJson),
  ("readable", .bool p.readable),
  ("writable", .bool p.writable),
  ("api", option PropertyAnnotation.toJson p.api)]

/-- The fields of the annotation stand beside the type. -/
def ParameterDecl.toJson (p : ParameterDecl) : Json := .obj [
  ("type", p.type.toJson),
  ("name", text? p.api.name),
  ("nullable", .bool p.api.nullable),
  ("default_value", text? p.api.defaultValue),
  ("description", text? p.api.description)]

def MethodDecl.toJson (m : MethodDecl) : Json := .obj [
  ("name", .str m.name),
  ("params", list ParameterDecl.toJson m.params),
  ("return_type", option TypeExpr.toJson m.returnType),
  ("is_public", .bool m.isPublic),
  ("is_static", .bool m.isStatic),
  ("api_method", option MethodAnnotation.toJson m.api)]

def ClassDecl.toJson (c : ClassDecl) : Json := .obj [
  ("name", .str c.name),
  ("kind", .str c.kind.name),
  ("type_params", strs c.typeParams),
  ("superclass", option TypeExpr.toJson c.superclass),
  ("interfaces", list TypeExpr.toJson c.interfaces),
  ("properties", list PropertyDecl.toJson c.properties),
  ("enum_constants", strs c.enumConstants),
  ("transformer", text? c.transformer),
  ("description", text? c.description),
  ("api", option ApiAnnotation.toJson c.api),
  ("api_class", option ClassAnnotation.toJson c.apiClass),
  ("api_reference", text? c.apiReference),
  ("methods", list MethodDecl.toJson c.methods)]

def ResourceProperty.toJson (p : ResourceProperty) : Json :=
  .obj [("name", .str p.name), ("type", p.type.toJson)]

def ResourceSchema.toJson (s : ResourceSchema) : Json :=
  .obj [("name", text? s.name), ("properties", list ResourceProperty.toJson s.properties)]

def TransformerDecl.toJson (t : TransformerDecl) : Json := .obj [
  ("name", .str t.name),
  ("source", t.source.toJson),
  ("target", t.target.toJson),
  ("constructors", strs (t.constructors.map ConstructorShape.name)),
  ("resource", option ResourceSchema.toJson t.resource)]

def ServiceModel.toJson (m : ServiceModel) : Json := .obj [
  ("classes", list ClassDecl.toJson m.classes),
  ("transformers", list TransformerDecl.toJson m.transformers),
  ("services", strs m.services)]

end ServiceApi
