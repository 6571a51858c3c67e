import ServiceApi.Config
import ServiceApi.Url.Parser

/-!
# Where an API is served

The root of a configuration as an absolute URL, and URLs below it.
-/

namespace ServiceApi.ApiConfig

/-- The root with exactly one slash at its end. A root that is no absolute URL cannot be
rendered. -/
def rootUrl (a : ApiConfig) (format : String) : Except ApiError Url :=
  (Url.parse (Text.trimTail '/' a.root ++ "/")).mapError fun e =>
    .render format a.key.text (.invalidRoot a.root e)

/-- What `path` means below `root`. -/
def urlBelow (a : ApiConfig) (format : String) (root : Url) (path : String) : Except ApiError Url :=
  (root.join path).mapError fun e => .render format a.key.text (.invalidPath e)

end ServiceApi.ApiConfig
