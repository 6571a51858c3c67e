import ServiceApi.Config.Override
import ServiceApi.Model.Read

/-!
# Reading overrides

An override is a field and a value. A field that may be left open is given null for that; a group of
settings gives a value to every member, zero, nothing or the empty text where it says nothing.
-/

namespace ServiceApi

open Node

def CookieAuth.read (n : Node) : Read CookieAuth := do
  let a ← CookieAuthAnnotation.read n
  return {
    allowCookieAuth := a.allowCookieAuth.getD false
    blockedRegions := a.blockedRegions.getD [] }

def CacheControl.read (n : Node) : Read CacheControl := do
  let a ← CacheControlAnnotation.read n
  return { kind := a.kind.getD .noCache, maxAge := a.maxAge.getD 0 }

def FrontendLimits.read (n : Node) : Read FrontendLimits := do
  let a ← FrontendLimitsAnnotation.read n
  return {
    unregisteredUserQps := a.unregisteredUserQps.getD 0
    unregisteredQps := a.unregisteredQps.getD 0
    unregisteredDaily := a.unregisteredDaily.getD 0
    rules := a.rules.getD [] }

def PackageNaming.read (n : Node) : Read PackageNaming := do
  let a ← PackageNamingAnnotation.read n
  return {
    ownerDomain := a.ownerDomain.getD ""
    ownerName := a.ownerName.getD ""
    packagePath := a.packagePath.getD "" }

def ApiOverride.read (field : String) (v : Node) : Read ApiOverride :=
  match field with
  | "root" => .root <$> asText v
  | "name" => .name <$> asText v
  | "canonical_name" => .canonicalName <$> asOptional asText v
  | "version" => .version <$> asText v
  | "title" => .title <$> asOptional asText v
  | "description" => .description <$> asOptional asText v
  | "documentation_link" => .documentationLink <$> asOptional asText v
  | "backend_root" => .backendRoot <$> asText v
  | "is_abstract" => .isAbstract <$> asBool v
  | "is_default_version" => .isDefaultVersion <$> asBool v
  | "discoverable" => .discoverable <$> asBool v
  | "use_datastore" => .useDatastore <$> asBool v
  | "resource" => .resource <$> asOptional asText v
  | "auth_level" => .authLevel <$> AuthLevel.read v
  | "scope_expression" => .scopes <$> readTexts v
  | "audiences" => .audiences <$> readTexts v
  | "issuers" => .issuers <$> asList Issuer.read v
  | "issuer_audiences" => .issuerAudiences <$> asList IssuerAudience.read v
  | "client_ids" => .clientIds <$> readTexts v
  | "authenticators" => .authenticators <$> asOptional readTexts v
  | "peer_authenticators" => .peerAuthenticators <$> asOptional readTexts v
  | "api_key_required" => .apiKeyRequired <$> asBool v
  | "auth_config" => .cookieAuth <$> CookieAuth.read v
  | "cache_control_config" => .cacheControl <$> CacheControl.read v
  | "frontend_limits_config" => .frontendLimits <$> FrontendLimits.read v
  | "namespace_config" => .packageNaming <$> PackageNaming.read v
  | "limit_metrics" => .limitMetrics <$> asList LimitMetric.read v
  | "add_transformer" => .addTransformer <$> asText v
  | _ => failure

def ClassOverride.read (field : String) (v : Node) : Read ClassOverride :=
  match field with
  | "resource" => .resource <$> asOptional asText v
  | "auth_level" => .authLevel <$> asOptional AuthLevel.read v
  | "scope_expression" => .scopes <$> asOptional readTexts v
  | "audiences" => .audiences <$> asOptional readTexts v
  | "issuer_audiences" => .issuerAudiences <$> asOptional (asList IssuerAudience.read) v
  | "client_ids" => .clientIds <$> asOptional readTexts v
  | "authenticators" => .authenticators <$> asOptional readTexts v
  | "peer_authenticators" => .peerAuthenticators <$> asOptional readTexts v
  | "use_datastore" => .useDatastore <$> asOptional asBool v
  | "api_key_required" => .apiKeyRequired <$> asOptional asBool v
  | _ => failure

def MethodOverride.read (field : String) (v : Node) : Read MethodOverride :=
  match field with
  | "name" => .name <$> asText v
  | "description" => .description <$> asOptional asText v
  | "path" => .path <$> asText v
  | "http_method" => .httpMethod <$> asText v
  | "auth_level" => .authLevel <$> asOptional AuthLevel.read v
  | "scope_expression" => .scopes <$> asOptional readTexts v
  | "audiences" => .audiences <$> asOptional readTexts v
  | "issuer_audiences" => .issuerAudiences <$> asOptional (asList IssuerAudience.read) v
  | "client_ids" => .clientIds <$> asOptional readTexts v
  | "authenticators" => .authenticators <$> asOptional readTexts v
  | "peer_authenticators" => .peerAuthenticators <$> asOptional readTexts v
  | "api_key_required" => .apiKeyRequired <$> asOptional asBool v
  | "ignored" => .ignored <$> asBool v
  | "metric_costs" => .metricCosts <$> asList MetricCost.read v
  | "return_type" => .returnType <$> asOptional asText v
  | _ => failure

end ServiceApi
