import ServiceApi.Auth
import ServiceApi.Settings

/-!
# Annotations

What a service model says about its classes, methods, parameters and properties. An element that is
left out keeps the value that holds already.
-/

namespace ServiceApi

structure PackageNamingAnnotation where
  ownerDomain : Option String := none
  ownerName : Option String := none
  packagePath : Option String := none
  deriving DecidableEq

structure CookieAuthAnnotation where
  allowCookieAuth : Option Bool := none
  blockedRegions : Option (List String) := none
  deriving DecidableEq

structure CacheControlAnnotation where
  kind : Option CacheKind := none
  maxAge : Option Int := none
  deriving DecidableEq

structure FrontendLimitsAnnotation where
  unregisteredUserQps : Option Int := none
  unregisteredQps : Option Int := none
  unregisteredDaily : Option Int := none
  rules : Option (List LimitRule) := none
  deriving DecidableEq

/-- Settings of a whole API, declared on a service class, a superclass or a referenced class. -/
structure ApiAnnotation where
  name : Option String := none
  canonicalName : Option String := none
  version : Option String := none
  title : Option String := none
  description : Option String := none
  documentationLink : Option String := none
  root : Option String := none
  backendRoot : Option String := none
  isAbstract : Option Bool := none
  defaultVersion : Option Bool := none
  discoverable : Option Bool := none
  useDatastore : Option Bool := none
  resource : Option String := none
  authLevel : Option AuthLevel := none
  scopes : Option (List String) := none
  audiences : Option (List String) := none
  issuers : Option (List Issuer) := none
  issuerAudiences : Option (List IssuerAudience) := none
  clientIds : Option (List String) := none
  authenticators : Option (List String) := none
  peerAuthenticators : Option (List String) := none
  apiKeyRequired : Option Bool := none
  transformers : Option (List String) := none
  packageNaming : Option PackageNamingAnnotation := none
  cookieAuth : Option CookieAuthAnnotation := none
  cacheControl : Option CacheControlAnnotation := none
  frontendLimits : Option FrontendLimitsAnnotation := none
  limitMetrics : Option (List LimitMetric) := none
  deriving DecidableEq

/-- What one service class sets differently from its API. -/
structure ClassAnnotation where
  resource : Option String := none
  authLevel : Option AuthLevel := none
  scopes : Option (List String) := none
  audiences : Option (List String) := none
  issuerAudiences : Option (List IssuerAudience) := none
  clientIds : Option (List String) := none
  authenticators : Option (List String) := none
  peerAuthenticators : Option (List String) := none
  useDatastore : Option Bool := none
  apiKeyRequired : Option Bool := none
  deriving DecidableEq

structure MethodAnnotation where
  name : Option String := none
  description : Option String := none
  path : Option String := none
  httpMethod : Option String := none
  authLevel : Option AuthLevel := none
  scopes : Option (List String) := none
  audiences : Option (List String) := none
  issuerAudiences : Option (List IssuerAudience) := none
  clientIds : Option (List String) := none
  authenticators : Option (List String) := none
  peerAuthenticators : Option (List String) := none
  ignored : Option Bool := none
  apiKeyRequired : Option Bool := none
  metricCosts : Option (List MetricCost) := none
  deriving DecidableEq

structure ParameterAnnotation where
  name : Option String := none
  nullable : Bool := false
  defaultValue : Option String := none
  description : Option String := none
  deriving DecidableEq

structure PropertyAnnotation where
  /-- The serialized name, where it differs from the name of the property. -/
  name : Option String := none
  description : Option String := none
  ignored : Option Bool := none
  required : Option Bool := none
  deriving DecidableEq

end ServiceApi
