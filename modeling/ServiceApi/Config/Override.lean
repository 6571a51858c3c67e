import ServiceApi.Load

/-!
# Overrides

Single settings of an API, a class or a method, each given a fixed value, and config sources made of
them.
-/

namespace ServiceApi

inductive ApiOverride where
  | root (v : String)
  | name (v : String)
  | canonicalName (v : Option String)
  | version (v : String)
  | title (v : Option String)
  | description (v : Option String)
  | documentationLink (v : Option String)
  | backendRoot (v : String)
  | isAbstract (v : Bool)
  | isDefaultVersion (v : Bool)
  | discoverable (v : Bool)
  | useDatastore (v : Bool)
  | resource (v : Option String)
  | authLevel (v : AuthLevel)
  | scopes (v : List String)
  | audiences (v : List String)
  | issuers (v : List Issuer)
  | issuerAudiences (v : List IssuerAudience)
  | clientIds (v : List String)
  | authenticators (v : Option (List String))
  | peerAuthenticators (v : Option (List String))
  | apiKeyRequired (v : Bool)
  | cookieAuth (v : CookieAuth)
  | cacheControl (v : CacheControl)
  | frontendLimits (v : FrontendLimits)
  | packageNaming (v : PackageNaming)
  | rules (v : SerializationRules)
  | limitMetrics (v : List LimitMetric)
  /-- Registers a transformer, which is no fixed value: it replaces others of its source class. -/
  | addTransformer (name : String)

def ApiOverride.apply (a : ApiConfig) : ApiOverride → Except ApiError ApiConfig
  | .root v => .ok { a with root := v }
  | .name v => .ok { a with name := v }
  | .canonicalName v => .ok { a with canonicalName := v }
  | .version v => .ok { a with version := v }
  | .title v => .ok { a with title := v }
  | .description v => .ok { a with description := v }
  | .documentationLink v => .ok { a with documentationLink := v }
  | .backendRoot v => .ok { a with backendRoot := v }
  | .isAbstract v => .ok { a with isAbstract := v }
  | .isDefaultVersion v => .ok { a with isDefaultVersion := v }
  | .discoverable v => .ok { a with discoverable := v }
  | .useDatastore v => .ok { a with useDatastore := v }
  | .resource v => .ok { a with resource := v }
  | .authLevel v => .ok { a with authLevel := v }
  | .scopes v => .ok { a with scopes := .ofScopes v }
  | .audiences v => .ok { a with audiences := v }
  | .issuers v => .ok { a with issuers := .ofList v }
  | .issuerAudiences v => .ok { a with issuerAudiences := .ofList v }
  | .clientIds v => .ok { a with clientIds := v }
  | .authenticators v => .ok { a with authenticators := v }
  | .peerAuthenticators v => .ok { a with peerAuthenticators := v }
  | .apiKeyRequired v => .ok { a with apiKeyRequired := v }
  | .cookieAuth v => .ok { a with cookieAuth := v }
  | .cacheControl v => .ok { a with cacheControl := v }
  | .frontendLimits v => .ok { a with frontendLimits := v }
  | .packageNaming v => .ok { a with packageNaming := v }
  | .rules v => .ok { a with rules := v }
  | .limitMetrics v => .ok { a with limitMetrics := v }
  | .addTransformer t => do return { a with rules := ← a.rules.add a.catalog t }

inductive ClassOverride where
  | resource (v : Option String)
  | authLevel (v : Option AuthLevel)
  | scopes (v : Option (List String))
  | audiences (v : Option (List String))
  | issuerAudiences (v : Option (List IssuerAudience))
  | clientIds (v : Option (List String))
  | authenticators (v : Option (List String))
  | peerAuthenticators (v : Option (List String))
  | useDatastore (v : Option Bool)
  | apiKeyRequired (v : Option Bool)

def ClassOverride.apply (c : ClassConfig) : ClassOverride → ClassConfig
  | .resource v => { c with resource := v }
  | .authLevel v => { c with authLevel := v }
  | .scopes v => { c with scopes := v.map .ofScopes }
  | .audiences v => { c with audiences := v }
  | .issuerAudiences v => { c with issuerAudiences := v.map .ofList }
  | .clientIds v => { c with clientIds := v }
  | .authenticators v => { c with authenticators := v }
  | .peerAuthenticators v => { c with peerAuthenticators := v }
  | .useDatastore v => { c with useDatastore := v }
  | .apiKeyRequired v => { c with apiKeyRequired := v }

inductive MethodOverride where
  | name (v : String)
  | description (v : Option String)
  | path (v : String)
  /-- The method as a text, which must name one. -/
  | httpMethod (v : String)
  | impliedResource (v : Option String)
  | authLevel (v : Option AuthLevel)
  | scopes (v : Option (List String))
  | audiences (v : Option (List String))
  | issuerAudiences (v : Option (List IssuerAudience))
  | clientIds (v : Option (List String))
  | authenticators (v : Option (List String))
  | peerAuthenticators (v : Option (List String))
  | apiKeyRequired (v : Option Bool)
  | ignored (v : Bool)
  | metricCosts (v : List MetricCost)
  | parameters (v : List ParameterConfig)
  /-- The type as a text, which must spell one. -/
  | returnType (v : Option String)

def MethodOverride.apply (m : MethodConfig) : MethodOverride → Except ApiError MethodConfig
  | .name v => .ok { m with name := v }
  | .description v => .ok { m with description := v }
  | .path v => .ok { m with path := v }
  | .httpMethod v => m.setHttpMethod v
  | .impliedResource v => .ok { m with impliedResource := v }
  | .authLevel v => .ok { m with authLevel := v }
  | .scopes v => .ok { m with scopes := v.map .ofScopes }
  | .audiences v => .ok { m with audiences := v }
  | .issuerAudiences v => .ok { m with issuerAudiences := v.map .ofList }
  | .clientIds v => .ok { m with clientIds := v }
  | .authenticators v => .ok { m with authenticators := v }
  | .peerAuthenticators v => .ok { m with peerAuthenticators := v }
  | .apiKeyRequired v => .ok { m with apiKeyRequired := v }
  | .ignored v => .ok { m with ignored := v }
  | .metricCosts v => .ok { m with metricCosts := v }
  | .parameters v => .ok { m with parameters := v }
  | .returnType v => m.setReturnType v

/-- A setting of the API or of its class. -/
inductive TopOverride where
  | api (o : ApiOverride)
  | ofClass (o : ClassOverride)

def TopOverride.apply (a : ApiConfig) : TopOverride → Except ApiError ApiConfig
  | .api o => o.apply a
  | .ofClass o => .ok { a with classConfig := o.apply a.classConfig }

/-- Which methods an override is for. -/
inductive MethodSelector where
  | all
  | named (name : String)
  | exactly (key : MethodKey)

def MethodSelector.selects : MethodSelector → MethodConfig → Bool
  | all, _ => true
  | named name, m => m.endpoint.name == name
  | exactly key, m => m.endpoint.key == key

/-- A setting of the selected methods. -/
structure SelectedOverride where
  selector : MethodSelector
  override : MethodOverride

namespace MethodConfigs

/-- Overrides the selected methods in order and counts them. It stops at the first that refuses; the
ones before it stay changed. -/
def override (o : SelectedOverride) (ms : MethodConfigs) : MethodConfigs × Except ApiError Nat :=
  go ms 0 ms.entries
where
  go (ms : MethodConfigs) (count : Nat) :
      List (MethodKey × MethodConfig) → MethodConfigs × Except ApiError Nat
    | [] => (ms, .ok count)
    | (key, m) :: rest =>
      if o.selector.selects m then
        match o.override.apply m with
        | .ok m => go (ms.insert key m) (count + 1) rest
        | .error e => (ms, .error e)
      else go ms count rest

end MethodConfigs

/-- Applies one override to the methods, or fails. -/
def SelectedOverride.apply (ms : MethodConfigs) (o : SelectedOverride) :
    Except ApiError MethodConfigs :=
  match ms.override o with
  | (ms, .ok _) => .ok ms
  | (_, .error e) => .error e

/-- A source that sets fixed values. -/
def ConfigSource.ofOverrides (name : String) (isStatic : ApiConfig → Bool)
    (top : List TopOverride) (onMethods : List SelectedOverride) : ConfigSource where
  name
  isStatic
  applyClass _ _ config := top.foldlM TopOverride.apply config
  applyMethods _ _ _ _ ms := onMethods.foldlM SelectedOverride.apply ms

end ServiceApi
