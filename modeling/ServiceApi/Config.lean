import ServiceApi.Config.Method
import ServiceApi.Environment.Context

/-!
# The configuration of an API

An API as one service class configures it: settings of the API, of the class, and of each method.
What class or method leave open is read through to the tier above whenever it is asked for, so a
later change of the API shows.
-/

namespace ServiceApi

/-- What tells APIs apart: two keys with different roots may still be one API. -/
structure ApiKey where
  name : String
  version : String
  root : Option String := none
  deriving DecidableEq

namespace ApiKey

def withoutRoot (k : ApiKey) : ApiKey := { k with root := none }

/-- `name-version`, as in file names. -/
def fileStem (k : ApiKey) : String := k.name ++ "-" ++ k.version

def text (k : ApiKey) : String :=
  k.name ++ ":" ++ k.version ++ (k.root.elim "" ("@" ++ ·))

/-- By name, version and root, no root before any. -/
def le (a b : ApiKey) : Bool :=
  a.name < b.name || (a.name == b.name &&
    (a.version < b.version || (a.version == b.version &&
      match a.root, b.root with
      | none, _ => true
      | some _, none => false
      | some r, some s => r ≤ s)))

end ApiKey

/-- A catalog that configurations share. They agree on it if they got it from the same place. -/
structure SharedCatalog where
  label : String
  catalog : Catalog

instance : BEq SharedCatalog := ⟨fun a b => a.label == b.label⟩

structure ClassConfig where
  serviceClass : String
  resource : Option String := none
  authLevel : Option AuthLevel := none
  scopes : Option ScopeExpression := none
  audiences : Option (List String) := none
  issuerAudiences : Option IssuerAudiences := none
  clientIds : Option (List String) := none
  authenticators : Option (List String) := none
  peerAuthenticators : Option (List String) := none
  useDatastore : Option Bool := none
  apiKeyRequired : Option Bool := none
  methods : MethodConfigs := .empty
  deriving BEq

structure ApiConfig where
  shared : SharedCatalog
  root : String
  name : String
  canonicalName : Option String := none
  version : String := "v1"
  title : Option String := none
  description : Option String := none
  documentationLink : Option String := none
  backendRoot : String
  isAbstract : Bool := false
  isDefaultVersion : Bool := false
  discoverable : Bool := true
  useDatastore : Bool := false
  resource : Option String := none
  authLevel : AuthLevel := .none
  scopes : ScopeExpression
  audiences : List String := []
  issuers : Issuers := .empty
  issuerAudiences : IssuerAudiences := .empty
  clientIds : List String
  authenticators : Option (List String) := none
  peerAuthenticators : Option (List String) := none
  apiKeyRequired : Bool := false
  cookieAuth : CookieAuth := {}
  cacheControl : CacheControl := {}
  frontendLimits : FrontendLimits := {}
  packageNaming : PackageNaming := {}
  rules : SerializationRules := {}
  limitMetrics : List LimitMetric := []
  classConfig : ClassConfig
  deriving BEq

/-- The scope that an API requires unless it says otherwise. -/
def defaultScope : String := "https://www.googleapis.com/auth/userinfo.email"

/-- The client that is allowed unless an API says otherwise. -/
def defaultClientId : String := "292824132082.apps.googleusercontent.com"

/-- The name of APIs that belong to the framework. -/
def internalApiName : String := "_EndpointsInternal"

namespace ApiConfig

/-- The defaults for a service class in a deployment. -/
def default (shared : SharedCatalog) (context : ServiceContext) (serviceClass : String) :
    ApiConfig where
  shared
  root := s!"{context.protocol}://{context.hostname}/_ah/api"
  name := context.defaultApiName
  backendRoot := s!"{context.protocol}://{context.hostname}/_ah/spi"
  scopes := .ofScopes [defaultScope]
  clientIds := [defaultClientId]
  classConfig := { serviceClass }

def catalog (a : ApiConfig) : Catalog := a.shared.catalog

def key (a : ApiConfig) : ApiKey := ⟨a.name, a.version, some a.root⟩

def methods (a : ApiConfig) : MethodConfigs := a.classConfig.methods

def setMethods (a : ApiConfig) (methods : MethodConfigs) : ApiConfig :=
  { a with classConfig := { a.classConfig with methods } }

end ApiConfig

/-! ## Effective values of a service class -/

/-- A level, with the one above in place of none and of the unspecified one. -/
def AuthLevel.orElse (level : Option AuthLevel) (above : AuthLevel) : AuthLevel :=
  (AuthLevel.specified? level).getD above

namespace ApiConfig

variable (a : ApiConfig)

def classResource : Option String := a.classConfig.resource.or a.resource

def classAuthLevel : AuthLevel := .orElse a.classConfig.authLevel a.authLevel

def classScopes : ScopeExpression := a.classConfig.scopes.getD a.scopes

def classAudiences : List String := a.classConfig.audiences.getD a.audiences

def classIssuerAudiences : IssuerAudiences := a.classConfig.issuerAudiences.getD a.issuerAudiences

def classClientIds : List String := a.classConfig.clientIds.getD a.clientIds

def classAuthenticators : Option (List String) := a.classConfig.authenticators.or a.authenticators

def classPeerAuthenticators : Option (List String) :=
  a.classConfig.peerAuthenticators.or a.peerAuthenticators

def classUseDatastore : Bool := a.classConfig.useDatastore.getD a.useDatastore

def classApiKeyRequired : Bool := a.classConfig.apiKeyRequired.getD a.apiKeyRequired

end ApiConfig

/-! ## Effective values of a method -/

/-- A method together with the API that it belongs to. -/
structure MethodScope where
  api : ApiConfig
  method : MethodConfig

namespace MethodScope

variable (m : MethodScope)

/-- `api.class.method` -/
def fullName : String := m.api.name ++ "." ++ m.method.name

def authLevel : AuthLevel := .orElse m.method.authLevel m.api.classAuthLevel

def scopes : ScopeExpression := m.method.scopes.getD m.api.classScopes

def audiences : List String := m.method.audiences.getD m.api.classAudiences

def issuerAudiences : IssuerAudiences := m.method.issuerAudiences.getD m.api.classIssuerAudiences

def clientIds : List String := m.method.clientIds.getD m.api.classClientIds

def authenticators : Option (List String) := m.method.authenticators.or m.api.classAuthenticators

def peerAuthenticators : Option (List String) :=
  m.method.peerAuthenticators.or m.api.classPeerAuthenticators

def apiKeyRequired : Bool := m.method.apiKeyRequired.getD m.api.classApiKeyRequired

/-- The resource of the class, else the one that the method's name gives. -/
def resource : Option String := m.api.classResource.or m.method.impliedResource

end MethodScope

/-- Every method, ignored ones included. -/
def ApiConfig.methodScopes (a : ApiConfig) : List MethodScope := a.methods.values.map (⟨a, ·⟩)

/-- The methods of all configurations that are not ignored, in order. -/
def activeMethods (configs : List ApiConfig) : List MethodScope :=
  (configs.flatMap ApiConfig.methodScopes).filter (!·.method.ignored)

end ServiceApi
