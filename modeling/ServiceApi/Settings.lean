/-!
# Settings of a whole API

Small groups of values that are configured once for an API: cookies, caching, quota limits and the
naming of generated packages.
-/

namespace ServiceApi

structure CookieAuth where
  allowCookieAuth : Bool := false
  blockedRegions : List String := []
  deriving DecidableEq

inductive CacheKind where
  | publicCache | privateCache | noCache
  deriving DecidableEq

namespace CacheKind

def all : List CacheKind := [publicCache, privateCache, noCache]

def name : CacheKind → String
  | publicCache => "public"
  | privateCache => "private"
  | noCache => "no-cache"

end CacheKind

structure CacheControl where
  kind : CacheKind := .noCache
  maxAge : Int := 0
  deriving DecidableEq

structure LimitRule where
  matchExpr : String := ""
  qps : Int := 0
  userQps : Int := 0
  daily : Int := 0
  analyticsId : String := ""
  deriving DecidableEq

/-- Quota limits at the front end; `-1` stands for no limit. -/
structure FrontendLimits where
  unregisteredUserQps : Int := -1
  unregisteredQps : Int := -1
  unregisteredDaily : Int := -1
  rules : List LimitRule := []
  deriving DecidableEq

/-- Naming hints for generated client packages. -/
structure PackageNaming where
  ownerDomain : String := ""
  ownerName : String := ""
  packagePath : String := ""
  deriving DecidableEq

def PackageNaming.isEmpty (n : PackageNaming) : Bool :=
  n.ownerDomain.isEmpty && n.ownerName.isEmpty && n.packagePath.isEmpty

/-- A quota metric that the API defines. -/
structure LimitMetric where
  name : String := ""
  displayName : String := ""
  limit : Int := 0
  deriving DecidableEq

/-- What a call of a method charges against a quota metric. -/
structure MetricCost where
  name : String := ""
  cost : Int := 0
  deriving DecidableEq

end ServiceApi
