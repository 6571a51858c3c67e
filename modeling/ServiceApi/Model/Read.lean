import ServiceApi.Model.Declaration
import ServiceApi.Node.Resolve
import ServiceApi.TypeExpr.Parser

/-!
# Reading a service model

Each record names its fields in the order in which a row lists them. Fields that are left out take
the defaults of the declaration; unknown fields are skipped, in a parameter too, whose fields are
kept with their own types before they are read.
-/

namespace ServiceApi

open Node

def TypeExpr.read : Node → Read TypeExpr :=
  leaf fun n => do (TypeExpr.parse (← n.asText?)).toOption

def readTexts : Node → Read (List String) := asList asText

def AuthLevel.read : Node → Read AuthLevel := asVariant AuthLevel.all AuthLevel.name

def Issuer.read (n : Node) : Read Issuer := do
  let fs ← n.fields ["name", "issuer", "jwks_uri"]
  return {
    name := ← fs.withDefault "name" "" asText
    issuer := ← fs.withDefault "issuer" "" asText
    jwksUri := ← fs.withDefault "jwks_uri" "" asText }

def IssuerAudience.read (n : Node) : Read IssuerAudience := do
  let fs ← n.fields ["name", "audiences"]
  return {
    name := ← fs.withDefault "name" "" asText
    audiences := ← fs.list "audiences" asText }

def PackageNamingAnnotation.read (n : Node) : Read PackageNamingAnnotation := do
  let fs ← n.fields ["owner_domain", "owner_name", "package_path"]
  return {
    ownerDomain := ← fs.optional "owner_domain" asText
    ownerName := ← fs.optional "owner_name" asText
    packagePath := ← fs.optional "package_path" asText }

def CookieAuthAnnotation.read (n : Node) : Read CookieAuthAnnotation := do
  let fs ← n.fields ["allow_cookie_auth", "blocked_regions"]
  return {
    allowCookieAuth := ← fs.optional "allow_cookie_auth" asBool
    blockedRegions := ← fs.optional "blocked_regions" readTexts }

def CacheControlAnnotation.read (n : Node) : Read CacheControlAnnotation := do
  let fs ← n.fields ["type", "max_age"]
  return {
    kind := ← fs.optional "type" (asVariant CacheKind.all CacheKind.name)
    maxAge := ← fs.optional "max_age" asInt32 }

def LimitRule.read (n : Node) : Read LimitRule := do
  let fs ← n.fields ["match", "qps", "user_qps", "daily", "analytics_id"]
  return {
    matchExpr := ← fs.withDefault "match" "" asText
    qps := ← fs.withDefault "qps" 0 asInt32
    userQps := ← fs.withDefault "user_qps" 0 asInt32
    daily := ← fs.withDefault "daily" 0 asInt32
    analyticsId := ← fs.withDefault "analytics_id" "" asText }

def FrontendLimitsAnnotation.read (n : Node) : Read FrontendLimitsAnnotation := do
  let fs ← n.fields ["unregistered_user_qps", "unregistered_qps", "unregistered_daily", "rules"]
  return {
    unregisteredUserQps := ← fs.optional "unregistered_user_qps" asInt32
    unregisteredQps := ← fs.optional "unregistered_qps" asInt32
    unregisteredDaily := ← fs.optional "unregistered_daily" asInt32
    rules := ← fs.optional "rules" (asList LimitRule.read) }

def LimitMetric.read (n : Node) : Read LimitMetric := do
  let fs ← n.fields ["name", "display_name", "limit"]
  return {
    name := ← fs.withDefault "name" "" asText
    displayName := ← fs.withDefault "display_name" "" asText
    limit := ← fs.withDefault "limit" 0 asInt64 }

def MetricCost.read (n : Node) : Read MetricCost := do
  let fs ← n.fields ["name", "cost"]
  return {
    name := ← fs.withDefault "name" "" asText
    cost := ← fs.withDefault "cost" 0 asInt32 }

def ApiAnnotation.read (n : Node) : Read ApiAnnotation := do
  let fs ← n.fields ["name", "canonical_name", "version", "title", "description",
    "documentation_link", "root", "backend_root", "is_abstract", "default_version",
    "discoverable", "use_datastore_for_additional_config", "resource", "auth_level", "scopes",
    "audiences", "issuers", "issuer_audiences", "client_ids", "authenticators",
    "peer_authenticators", "api_key_required", "transformers", "namespace", "auth",
    "cache_control", "frontend_limits", "limit_definitions"]
  return {
    name := ← fs.optional "name" asText
    canonicalName := ← fs.optional "canonical_name" asText
    version := ← fs.optional "version" asText
    title := ← fs.optional "title" asText
    description := ← fs.optional "description" asText
    documentationLink := ← fs.optional "documentation_link" asText
    root := ← fs.optional "root" asText
    backendRoot := ← fs.optional "backend_root" asText
    isAbstract := ← fs.optional "is_abstract" asBool
    defaultVersion := ← fs.optional "default_version" asBool
    discoverable := ← fs.optional "discoverable" asBool
    useDatastore := ← fs.optional "use_datastore_for_additional_config" asBool
    resource := ← fs.optional "resource" asText
    authLevel := ← fs.optional "auth_level" AuthLevel.read
    scopes := ← fs.optional "scopes" readTexts
    audiences := ← fs.optional "audiences" readTexts
    issuers := ← fs.optional "issuers" (asList Issuer.read)
    issuerAudiences := ← fs.optional "issuer_audiences" (asList IssuerAudience.read)
    clientIds := ← fs.optional "client_ids" readTexts
    authenticators := ← fs.optional "authenticators" readTexts
    peerAuthenticators := ← fs.optional "peer_authenticators" readTexts
    apiKeyRequired := ← fs.optional "api_key_required" asBool
    transformers := ← fs.optional "transformers" readTexts
    packageNaming := ← fs.optional "namespace" PackageNamingAnnotation.read
    cookieAuth := ← fs.optional "auth" CookieAuthAnnotation.read
    cacheControl := ← fs.optional "cache_control" CacheControlAnnotation.read
    frontendLimits := ← fs.optional "frontend_limits" FrontendLimitsAnnotation.read
    limitMetrics := ← fs.optional "limit_definitions" (asList LimitMetric.read) }

def ClassAnnotation.read (n : Node) : Read ClassAnnotation := do
  let fs ← n.fields ["resource", "auth_level", "scopes", "audiences", "issuer_audiences",
    "client_ids", "authenticators", "peer_authenticators",
    "use_datastore_for_additional_config", "api_key_required"]
  return {
    resource := ← fs.optional "resource" asText
    authLevel := ← fs.optional "auth_level" AuthLevel.read
    scopes := ← fs.optional "scopes" readTexts
    audiences := ← fs.optional "audiences" readTexts
    issuerAudiences := ← fs.optional "issuer_audiences" (asList IssuerAudience.read)
    clientIds := ← fs.optional "client_ids" readTexts
    authenticators := ← fs.optional "authenticators" readTexts
    peerAuthenticators := ← fs.optional "peer_authenticators" readTexts
    useDatastore := ← fs.optional "use_datastore_for_additional_config" asBool
    apiKeyRequired := ← fs.optional "api_key_required" asBool }

def MethodAnnotation.read (n : Node) : Read MethodAnnotation := do
  let fs ← n.fields ["name", "description", "path", "http_method", "auth_level", "scopes",
    "audiences", "issuer_audiences", "client_ids", "authenticators", "peer_authenticators",
    "ignored", "api_key_required", "metric_costs"]
  return {
    name := ← fs.optional "name" asText
    description := ← fs.optional "description" asText
    path := ← fs.optional "path" asText
    httpMethod := ← fs.optional "http_method" asText
    authLevel := ← fs.optional "auth_level" AuthLevel.read
    scopes := ← fs.optional "scopes" readTexts
    audiences := ← fs.optional "audiences" readTexts
    issuerAudiences := ← fs.optional "issuer_audiences" (asList IssuerAudience.read)
    clientIds := ← fs.optional "client_ids" readTexts
    authenticators := ← fs.optional "authenticators" readTexts
    peerAuthenticators := ← fs.optional "peer_authenticators" readTexts
    ignored := ← fs.optional "ignored" asBool
    apiKeyRequired := ← fs.optional "api_key_required" asBool
    metricCosts := ← fs.optional "metric_costs" (asList MetricCost.read) }

def PropertyAnnotation.read (n : Node) : Read PropertyAnnotation := do
  let fs ← n.fields ["name", "description", "ignored", "required"]
  return {
    name := ← fs.optional "name" asText
    description := ← fs.optional "description" asText
    ignored := ← fs.optional "ignored" asBool
    required := ← fs.optional "required" asBool }

def PropertyDecl.read (n : Node) : Read PropertyDecl := do
  let fs ← n.fields ["name", "type", "readable", "writable", "api"]
  return {
    name := ← fs.required "name" asText
    type := ← fs.required "type" TypeExpr.read
    readable := ← fs.withDefault "readable" true asBool
    writable := ← fs.withDefault "writable" true asBool
    api := ← fs.optional "api" PropertyAnnotation.read }

/-- The fields of a record that is no row, by their keys. -/
def readOpenFields (n : Node) : Read Fields := do
  match (← n.follow).untagged with
  | .record fs => return fs
  | .mapping entries => readEntries entries
  | _ => failure

def ParameterDecl.read (n : Node) : Read ParameterDecl := do
  let given ← readOpenFields n
  let fs ← Fields.pick ["type"] given
  let depth ← nesting
  let others ← (given.filter (·.1 != "type")).mapM fun (k, v) => return (k, ← resolve depth v)
  let os ← Fields.pick ["name", "nullable", "default_value", "description"] others
  return {
    type := ← fs.required "type" TypeExpr.read
    api := {
      name := ← os.optional "name" asText
      nullable := ← os.withDefault "nullable" false asBool
      defaultValue := ← os.optional "default_value" asText
      description := ← os.optional "description" asText } }

def MethodDecl.read (n : Node) : Read MethodDecl := do
  let fs ← n.fields ["name", "params", "return_type", "is_public", "is_static", "api_method"]
  return {
    name := ← fs.required "name" asText
    params := ← fs.list "params" ParameterDecl.read
    returnType := ← fs.optional "return_type" TypeExpr.read
    isPublic := ← fs.withDefault "is_public" true asBool
    isStatic := ← fs.withDefault "is_static" false asBool
    api := ← fs.optional "api_method" MethodAnnotation.read }

def ClassDecl.read (n : Node) : Read ClassDecl := do
  let fs ← n.fields ["name", "kind", "type_params", "superclass", "interfaces", "properties",
    "enum_constants", "transformer", "description", "api", "api_class", "api_reference",
    "methods"]
  return {
    name := ← fs.withDefault "name" "" asText
    kind := ← fs.withDefault "kind" .plain (asVariant ClassKind.all ClassKind.name)
    typeParams := ← fs.list "type_params" asText
    superclass := ← fs.optional "superclass" TypeExpr.read
    interfaces := ← fs.list "interfaces" TypeExpr.read
    properties := ← fs.list "properties" PropertyDecl.read
    enumConstants := ← fs.list "enum_constants" asText
    transformer := ← fs.optional "transformer" asText
    description := ← fs.optional "description" asText
    api := ← fs.optional "api" ApiAnnotation.read
    apiClass := ← fs.optional "api_class" ClassAnnotation.read
    apiReference := ← fs.optional "api_reference" asText
    methods := ← fs.list "methods" MethodDecl.read }

def ResourceProperty.read (n : Node) : Read ResourceProperty := do
  let fs ← n.fields ["name", "type"]
  return {
    name := ← fs.required "name" asText
    type := ← fs.required "type" TypeExpr.read }

def ResourceSchema.read (n : Node) : Read ResourceSchema := do
  let fs ← n.fields ["name", "properties"]
  return {
    name := ← fs.optional "name" asText
    properties := ← fs.list "properties" ResourceProperty.read }

def TransformerDecl.read (n : Node) : Read TransformerDecl := do
  let fs ← n.fields ["name", "source", "target", "constructors", "resource"]
  return {
    name := ← fs.required "name" asText
    source := ← fs.required "source" TypeExpr.read
    target := ← fs.required "target" TypeExpr.read
    constructors := ← fs.withDefault "constructors" [.noArgument]
      (asList (asVariant ConstructorShape.all ConstructorShape.name))
    resource := ← fs.optional "resource" ResourceSchema.read }

def ServiceModel.read (n : Node) : Read ServiceModel := do
  let fs ← n.fields ["classes", "transformers", "services"]
  return {
    classes := ← fs.list "classes" ClassDecl.read
    transformers := ← fs.list "transformers" TransformerDecl.read
    services := ← fs.list "services" asText }

end ServiceApi
