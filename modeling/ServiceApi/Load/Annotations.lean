import ServiceApi.Load.Methods

/-!
# Applying annotations

What the annotations of a service class say about its API, the class and its methods. Annotations of
an API are applied least specific first: those of the superclasses from the base on, those reached
through the class that `apiReference` names, and last those of the class itself.
-/

namespace ServiceApi

namespace Catalog

/-- The superclasses of `decl` by raw name, nearest first; `visited` are the names before. -/
def superclassDecls (c : Catalog) : Nat → List String → ClassDecl → List ClassDecl
  | 0, _, _ => []
  | fuel + 1, visited, decl =>
    match decl.superclass.bind c.declOf? with
    | none => []
    | some next =>
      if visited.contains next.name then []
      else next :: superclassDecls c fuel (next.name :: visited) next

/-- The API annotations of the superclasses, from the base on. -/
def inheritedAnnotations (c : Catalog) (decl : ClassDecl) : List ApiAnnotation :=
  ((c.superclassDecls (c.classes.size + 1) [decl.name] decl).filterMap (·.api)).reverse

/-- The API annotations that apply to a class, least specific first. -/
def annotationChain (c : Catalog) (decl : ClassDecl) : List ApiAnnotation :=
  let referenced := match decl.apiReference.bind c.class? with
    | some r => c.inheritedAnnotations r ++ r.api.toList
    | none => []
  c.inheritedAnnotations decl ++ referenced ++ decl.api.toList

end Catalog

def PackageNaming.annotate (n : PackageNaming) (a : PackageNamingAnnotation) : PackageNaming where
  ownerDomain := a.ownerDomain.getD n.ownerDomain
  ownerName := a.ownerName.getD n.ownerName
  packagePath := a.packagePath.getD n.packagePath

def CookieAuth.annotate (x : CookieAuth) (a : CookieAuthAnnotation) : CookieAuth where
  allowCookieAuth := a.allowCookieAuth.getD x.allowCookieAuth
  blockedRegions := a.blockedRegions.getD x.blockedRegions

def CacheControl.annotate (x : CacheControl) (a : CacheControlAnnotation) : CacheControl where
  kind := a.kind.getD x.kind
  maxAge := a.maxAge.getD x.maxAge

def FrontendLimits.annotate (x : FrontendLimits) (a : FrontendLimitsAnnotation) :
    FrontendLimits where
  unregisteredUserQps := a.unregisteredUserQps.getD x.unregisteredUserQps
  unregisteredQps := a.unregisteredQps.getD x.unregisteredQps
  unregisteredDaily := a.unregisteredDaily.getD x.unregisteredDaily
  rules := a.rules.getD x.rules

/-- Issuers are added to those that are there; all other settings are replaced. -/
def ApiConfig.annotate (x : ApiConfig) (a : ApiAnnotation) : Except ApiError ApiConfig := do
  let rules ← (a.transformers.getD []).foldlM (fun rules t => rules.add x.catalog t) x.rules
  return { x with
    name := a.name.getD x.name
    canonicalName := a.canonicalName.or x.canonicalName
    version := a.version.getD x.version
    title := a.title.or x.title
    description := a.description.or x.description
    documentationLink := a.documentationLink.or x.documentationLink
    root := a.root.getD x.root
    backendRoot := a.backendRoot.getD x.backendRoot
    isAbstract := a.isAbstract.getD x.isAbstract
    isDefaultVersion := a.defaultVersion.getD x.isDefaultVersion
    discoverable := a.discoverable.getD x.discoverable
    useDatastore := a.useDatastore.getD x.useDatastore
    resource := a.resource.or x.resource
    authLevel := .orElse a.authLevel x.authLevel
    scopes := (a.scopes.map .ofScopes).getD x.scopes
    audiences := a.audiences.getD x.audiences
    issuers := (a.issuers.getD []).foldl Issuers.add x.issuers
    issuerAudiences := (a.issuerAudiences.map .ofList).getD x.issuerAudiences
    clientIds := a.clientIds.getD x.clientIds
    authenticators := a.authenticators.or x.authenticators
    peerAuthenticators := a.peerAuthenticators.or x.peerAuthenticators
    apiKeyRequired := a.apiKeyRequired.getD x.apiKeyRequired
    cookieAuth := a.cookieAuth.elim x.cookieAuth x.cookieAuth.annotate
    cacheControl := a.cacheControl.elim x.cacheControl x.cacheControl.annotate
    frontendLimits := a.frontendLimits.elim x.frontendLimits x.frontendLimits.annotate
    packageNaming := a.packageNaming.elim x.packageNaming x.packageNaming.annotate
    rules
    limitMetrics := a.limitMetrics.getD x.limitMetrics }

def ClassConfig.annotate (x : ClassConfig) (a : ClassAnnotation) : ClassConfig :=
  { x with
    resource := a.resource.or x.resource
    authLevel := (AuthLevel.specified? a.authLevel).or x.authLevel
    scopes := (a.scopes.map .ofScopes).or x.scopes
    audiences := a.audiences.or x.audiences
    issuerAudiences := (a.issuerAudiences.map .ofList).or x.issuerAudiences
    clientIds := a.clientIds.or x.clientIds
    authenticators := a.authenticators.or x.authenticators
    peerAuthenticators := a.peerAuthenticators.or x.peerAuthenticators
    useDatastore := a.useDatastore.or x.useDatastore
    apiKeyRequired := a.apiKeyRequired.or x.apiKeyRequired }

def MethodConfig.annotate (x : MethodConfig) (a : MethodAnnotation) :
    Except ApiError MethodConfig := do
  let x := { x with
    name := a.name.getD x.name
    description := a.description.or x.description
    path := a.path.getD x.path
    authLevel := (AuthLevel.specified? a.authLevel).or x.authLevel
    scopes := (a.scopes.map .ofScopes).or x.scopes
    audiences := a.audiences.or x.audiences
    issuerAudiences := (a.issuerAudiences.map .ofList).or x.issuerAudiences
    clientIds := a.clientIds.or x.clientIds
    authenticators := a.authenticators.or x.authenticators
    peerAuthenticators := a.peerAuthenticators.or x.peerAuthenticators
    ignored := a.ignored.getD x.ignored
    apiKeyRequired := a.apiKeyRequired.or x.apiKeyRequired
    metricCosts := a.metricCosts.getD x.metricCosts }
  match a.httpMethod with
  | some value => x.setHttpMethod value
  | none => return x

def ParameterConfig.ofDecl (p : ParameterDecl) (type : TypeExpr) : ParameterConfig where
  name := p.api.name
  description := p.api.description
  nullable := p.api.nullable
  defaultValue := p.api.defaultValue
  type

/-- Configures one method: its parameters in order, then its annotation. -/
def MethodConfigs.load (c : Catalog) (rules : SerializationRules) (ms : MethodConfigs)
    (m : EndpointMethod × MethodDecl) : Except ApiError MethodConfigs := do
  let start := (ms.get? m.1.key).getD (.ofMethod m.1)
  let params := m.2.params.zip m.1.parameterTypes
  let config ← params.foldlM (fun config (p, type) =>
    config.addParameter (.ofDecl p type) c rules) start
  let config ← match m.2.api with
    | some a => config.annotate a
    | none => .ok config
  return ms.insert m.1.key config

end ServiceApi
