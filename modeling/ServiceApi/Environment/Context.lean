import ServiceApi.Environment.Variables

/-!
# The deployment

Host name, protocol and default API name, from which the defaults of a configuration follow. A
variable that is blank counts as missing.
-/

namespace ServiceApi

structure ServiceContext where
  hostname : String := "localhost"
  protocol : String := "https"
  defaultApiName : String := "myapi"
  appName : Option String := none
  deriving DecidableEq

namespace ServiceContext

def ofVariables (vars : Variables) : ServiceContext :=
  let base : ServiceContext := {}
  { hostname := (vars.nonBlank? "ENDPOINTS_HOSTNAME").getD base.hostname
    protocol := (vars.nonBlank? "ENDPOINTS_PROTOCOL").getD base.protocol
    defaultApiName := (vars.nonBlank? "ENDPOINTS_DEFAULT_API_NAME").getD base.defaultApiName
    appName := vars.nonBlank? "ENDPOINTS_APP_NAME" }

end ServiceContext

end ServiceApi
