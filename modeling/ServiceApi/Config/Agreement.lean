import ServiceApi.Config.Write

/-!
# Agreement of configurations

Two configurations of one API must agree on every setting of the API as a whole. Their service
classes and catalogs may differ.
-/

namespace ServiceApi

/-- The difference of two values, if they differ. -/
def differ {α : Type} [BEq α] (property : String) (toJson : α → Json) (a b : α) :
    List Inconsistency :=
  if a == b then [] else [⟨property, toJson a, toJson b⟩]

open Json

/-- The settings of the API as a whole on which `a` and `b` differ. -/
def ApiConfig.inconsistencies (a b : ApiConfig) : List Inconsistency :=
  differ "root" .str a.root b.root ++
  differ "name" .str a.name b.name ++
  differ "canonicalName" text? a.canonicalName b.canonicalName ++
  differ "version" .str a.version b.version ++
  differ "title" text? a.title b.title ++
  differ "description" text? a.description b.description ++
  differ "documentationLink" text? a.documentationLink b.documentationLink ++
  differ "backendRoot" .str a.backendRoot b.backendRoot ++
  differ "isAbstract" .bool a.isAbstract b.isAbstract ++
  differ "defaultVersion" .bool a.isDefaultVersion b.isDefaultVersion ++
  differ "discoverable" .bool a.discoverable b.discoverable ++
  differ "useDatastore" .bool a.useDatastore b.useDatastore ++
  differ "resource" text? a.resource b.resource ++
  differ "authLevel" AuthLevel.toJson a.authLevel b.authLevel ++
  differ "scopeExpression" ScopeExpression.toJson a.scopes b.scopes ++
  differ "audiences" strs a.audiences b.audiences ++
  differ "issuers" Issuers.toJson a.issuers b.issuers ++
  differ "issuerAudiences" IssuerAudiences.toJson a.issuerAudiences b.issuerAudiences ++
  differ "clientIds" strs a.clientIds b.clientIds ++
  differ "authenticators" strs? a.authenticators b.authenticators ++
  differ "peerAuthenticators" strs? a.peerAuthenticators b.peerAuthenticators ++
  differ "apiKeyRequired" .bool a.apiKeyRequired b.apiKeyRequired ++
  differ "authConfig" CookieAuth.toJson a.cookieAuth b.cookieAuth ++
  differ "cacheControlConfig" CacheControl.toJson a.cacheControl b.cacheControl ++
  differ "frontendLimitsConfig" FrontendLimits.toJson a.frontendLimits b.frontendLimits ++
  differ "namespaceConfig" PackageNaming.toJson a.packageNaming b.packageNaming ++
  differ "serializationConfig" SerializationRules.toJson a.rules b.rules ++
  differ "limitMetrics" (list LimitMetric.toJson) a.limitMetrics b.limitMetrics

end ServiceApi
