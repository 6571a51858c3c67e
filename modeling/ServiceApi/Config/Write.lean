import ServiceApi.Config
import ServiceApi.Model.Write

/-!
# Writing configurations

Every field in the order of the declaration, null for what is left out, the catalog not at all.
-/

namespace ServiceApi

open Json

def ScopeExpression.toJson (e : ScopeExpression) : Json := list strs e.alternatives

def Issuers.toJson (issuers : Issuers) : Json :=
  .obj (issuers.entries.map fun (name, i) => (name, i.toJson))

def IssuerAudiences.toJson (m : IssuerAudiences) : Json :=
  .obj (m.entries.map fun (name, audiences) => (name, strs audiences))

def CookieAuth.toJson (a : CookieAuth) : Json := .obj [
  ("allow_cookie_auth", .bool a.allowCookieAuth),
  ("blocked_regions", strs a.blockedRegions)]

def CacheControl.toJson (c : CacheControl) : Json :=
  .obj [("type", c.kind.toJson), ("max_age", .int c.maxAge)]

def FrontendLimits.toJson (l : FrontendLimits) : Json := .obj [
  ("unregistered_user_qps", .int l.unregisteredUserQps),
  ("unregistered_qps", .int l.unregisteredQps),
  ("unregistered_daily", .int l.unregisteredDaily),
  ("rules", list LimitRule.toJson l.rules)]

def PackageNaming.toJson (n : PackageNaming) : Json := .obj [
  ("owner_domain", .str n.ownerDomain),
  ("owner_name", .str n.ownerName),
  ("package_path", .str n.packagePath)]

def Serializer.toJson (s : Serializer) : Json :=
  .obj [("source", .str s.source), ("transformer", .str s.transformer)]

def SerializationRules.toJson (r : SerializationRules) : Json :=
  .obj [("serializers", list Serializer.toJson r.serializers)]

def EndpointMethod.toJson (m : EndpointMethod) : Json := .obj [
  ("service_class", .str m.serviceClass),
  ("declaring_class", .str m.declaringClass),
  ("name", .str m.name),
  ("parameter_types", list TypeExpr.toJson m.parameterTypes),
  ("return_type", option TypeExpr.toJson m.returnType)]

def ParameterConfig.toJson (p : ParameterConfig) : Json := .obj [
  ("name", text? p.name),
  ("description", text? p.description),
  ("nullable", .bool p.nullable),
  ("default_value", text? p.defaultValue),
  ("type", p.type.toJson),
  ("serializers", strs? p.transformers),
  ("repeated_item_serializers", strs? p.itemTransformers)]

def MethodConfig.toJson (m : MethodConfig) : Json := .obj [
  ("endpoint_method", m.endpoint.toJson),
  ("name", .str m.name),
  ("description", text? m.description),
  ("path", .str m.path),
  ("http_method", .str m.httpMethod),
  ("implied_resource", text? m.impliedResource),
  ("auth_level", option AuthLevel.toJson m.authLevel),
  ("scope_expression", option ScopeExpression.toJson m.scopes),
  ("audiences", strs? m.audiences),
  ("issuer_audiences", option IssuerAudiences.toJson m.issuerAudiences),
  ("client_ids", strs? m.clientIds),
  ("authenticators", strs? m.authenticators),
  ("peer_authenticators", strs? m.peerAuthenticators),
  ("api_key_required", bool? m.apiKeyRequired),
  ("ignored", .bool m.ignored),
  ("metric_costs", list MetricCost.toJson m.metricCosts),
  ("parameters", list ParameterConfig.toJson m.parameters)]

def ClassConfig.toJson (c : ClassConfig) : Json := .obj [
  ("service_class", .str c.serviceClass),
  ("resource", text? c.resource),
  ("auth_level", option AuthLevel.toJson c.authLevel),
  ("scope_expression", option ScopeExpression.toJson c.scopes),
  ("audiences", strs? c.audiences),
  ("issuer_audiences", option IssuerAudiences.toJson c.issuerAudiences),
  ("client_ids", strs? c.clientIds),
  ("authenticators", strs? c.authenticators),
  ("peer_authenticators", strs? c.peerAuthenticators),
  ("use_datastore", bool? c.useDatastore),
  ("api_key_required", bool? c.apiKeyRequired),
  ("methods", list MethodConfig.toJson c.methods.values)]

def ApiConfig.toJson (a : ApiConfig) : Json := .obj [
  ("root", .str a.root),
  ("name", .str a.name),
  ("canonical_name", text? a.canonicalName),
  ("version", .str a.version),
  ("title", text? a.title),
  ("description", text? a.description),
  ("documentation_link", text? a.documentationLink),
  ("backend_root", .str a.backendRoot),
  ("is_abstract", .bool a.isAbstract),
  ("is_default_version", .bool a.isDefaultVersion),
  ("discoverable", .bool a.discoverable),
  ("use_datastore", .bool a.useDatastore),
  ("resource", text? a.resource),
  ("auth_level", a.authLevel.toJson),
  ("scope_expression", a.scopes.toJson),
  ("audiences", strs a.audiences),
  ("issuers", a.issuers.toJson),
  ("issuer_audiences", a.issuerAudiences.toJson),
  ("client_ids", strs a.clientIds),
  ("authenticators", strs? a.authenticators),
  ("peer_authenticators", strs? a.peerAuthenticators),
  ("api_key_required", .bool a.apiKeyRequired),
  ("auth_config", a.cookieAuth.toJson),
  ("cache_control_config", a.cacheControl.toJson),
  ("frontend_limits_config", a.frontendLimits.toJson),
  ("namespace_config", a.packageNaming.toJson),
  ("serialization_config", a.rules.toJson),
  ("limit_metrics", list LimitMetric.toJson a.limitMetrics),
  ("class_config", a.classConfig.toJson)]

end ServiceApi
