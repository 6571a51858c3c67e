import Mathlib.Logic.Relation
import ServiceApi.Model.Read

/-! # Edits of a service model

What a value of a service model consists of, as far as records go, and what it is to rearrange the
fields of one of its records or to give it one more. A `Form` says where the records stand in a
value and which fields each of them knows; it says nothing about the values that have no parts. -/

namespace ServiceApi

open Node

/-! ## Forms -/

/-- Where a value has records, and which fields they know. A parameter `keeps` the fields it does
not know. -/
inductive Form where
  | value
  | list (item : Form)
  | record (keeps : Bool) (fields : List (String × Form))

namespace Form

/-- A record whose known fields hold no records. -/
def flat (keeps : Bool) (names : List String) : Form := .record keeps (names.map (·, value))

end Form

def Issuer.form : Form := .flat false ["name", "issuer", "jwks_uri"]

def IssuerAudience.form : Form := .record false [("name", .value), ("audiences", .list .value)]

def PackageNamingAnnotation.form : Form :=
  .flat false ["owner_domain", "owner_name", "package_path"]

def CookieAuthAnnotation.form : Form :=
  .record false [("allow_cookie_auth", .value), ("blocked_regions", .list .value)]

def CacheControlAnnotation.form : Form := .flat false ["type", "max_age"]

def LimitRule.form : Form := .flat false ["match", "qps", "user_qps", "daily", "analytics_id"]

def FrontendLimitsAnnotation.form : Form := .record false [
  ("unregistered_user_qps", .value), ("unregistered_qps", .value), ("unregistered_daily", .value),
  ("rules", .list LimitRule.form)]

def LimitMetric.form : Form := .flat false ["name", "display_name", "limit"]

def MetricCost.form : Form := .flat false ["name", "cost"]

def ApiAnnotation.form : Form := .record false [
  ("name", .value), ("canonical_name", .value), ("version", .value), ("title", .value),
    ("description", .value),
  ("documentation_link", .value), ("root", .value), ("backend_root", .value),
    ("is_abstract", .value),
  ("default_version", .value), ("discoverable", .value),
    ("use_datastore_for_additional_config", .value),
  ("resource", .value), ("auth_level", .value), ("scopes", .list .value),
    ("audiences", .list .value),
  ("issuers", .list Issuer.form), ("issuer_audiences", .list IssuerAudience.form),
    ("client_ids", .list .value),
  ("authenticators", .list .value), ("peer_authenticators", .list .value),
    ("api_key_required", .value),
  ("transformers", .list .value), ("namespace", PackageNamingAnnotation.form),
    ("auth", CookieAuthAnnotation.form),
  ("cache_control", CacheControlAnnotation.form),
    ("frontend_limits", FrontendLimitsAnnotation.form),
  ("limit_definitions", .list LimitMetric.form)]

def ClassAnnotation.form : Form := .record false [
  ("resource", .value), ("auth_level", .value), ("scopes", .list .value),
    ("audiences", .list .value),
  ("issuer_audiences", .list IssuerAudience.form), ("client_ids", .list .value),
    ("authenticators", .list .value),
  ("peer_authenticators", .list .value), ("use_datastore_for_additional_config", .value),
  ("api_key_required", .value)]

def MethodAnnotation.form : Form := .record false [
  ("name", .value), ("description", .value), ("path", .value), ("http_method", .value),
    ("auth_level", .value),
  ("scopes", .list .value), ("audiences", .list .value),
    ("issuer_audiences", .list IssuerAudience.form),
  ("client_ids", .list .value), ("authenticators", .list .value),
    ("peer_authenticators", .list .value),
  ("ignored", .value), ("api_key_required", .value), ("metric_costs", .list MetricCost.form)]

def PropertyAnnotation.form : Form := .flat false ["name", "description", "ignored", "required"]

def PropertyDecl.form : Form := .record false [
  ("name", .value), ("type", .value), ("readable", .value), ("writable", .value),
    ("api", PropertyAnnotation.form)]

def ParameterDecl.form : Form :=
  .flat true ["type", "name", "nullable", "default_value", "description"]

def MethodDecl.form : Form := .record false [
  ("name", .value), ("params", .list ParameterDecl.form), ("return_type", .value),
    ("is_public", .value),
  ("is_static", .value), ("api_method", MethodAnnotation.form)]

def ClassDecl.form : Form := .record false [
  ("name", .value), ("kind", .value), ("type_params", .list .value), ("superclass", .value),
  ("interfaces", .list .value), ("properties", .list PropertyDecl.form),
    ("enum_constants", .list .value),
  ("transformer", .value), ("description", .value), ("api", ApiAnnotation.form),
  ("api_class", ClassAnnotation.form), ("api_reference", .value),
    ("methods", .list MethodDecl.form)]

def ResourceProperty.form : Form := .flat false ["name", "type"]

def ResourceSchema.form : Form :=
  .record false [("name", .value), ("properties", .list ResourceProperty.form)]

def TransformerDecl.form : Form := .record false [
  ("name", .value), ("source", .value), ("target", .value), ("constructors", .list .value),
  ("resource", ResourceSchema.form)]

def ServiceModel.form : Form := .record false [
  ("classes", .list ClassDecl.form), ("transformers", .list TransformerDecl.form),
    ("services", .list .value)]

/-! ## Edits -/

namespace Node

/-- A JSON value whose numbers are all in the range of the format, whose strings are well formed,
and which nests at most `depth` deep. -/
def isInRange : Nat → Node → Bool
  | _, .null | _, .bool _ | _, .int _ | _, .text _ => true
  | _, .real finite => finite
  | depth + 1, .row items => items.all fun v => isInRange depth v
  | depth + 1, .record fields => fields.all fun f => isInRange depth f.2
  | _, _ => false

/-- One edit of one record of a value: its fields are permuted, or it is given one that it does not
know. A parameter is given only what is `kept`. A record stands where the form has one, among the
fields of another record, among the items of a list, or in a row at the place of its field. -/
inductive Edit (kept : Node → Prop) : Form → Node → Node → Prop
  | permute {keeps : Bool} {known : List (String × Form)} {fs fs' : Fields} (h : fs.Perm fs') :
      Edit kept (.record keeps known) (.record fs) (.record fs')
  | add {keeps : Bool} {known : List (String × Form)} {fs : Fields} {key : String} {v : Node}
      (hkey : key ∉ known.map Prod.fst) (hv : keeps = true → kept v) :
      Edit kept (.record keeps known) (.record fs) (.record ((key, v) :: fs))
  | field {keeps : Bool} {known : List (String × Form)} {key : String} {form : Form} {n n' : Node}
      (before after : Fields) (hform : known.lookup key = some form) (h : Edit kept form n n') :
      Edit kept (.record keeps known) (.record (before ++ (key, n) :: after))
        (.record (before ++ (key, n') :: after))
  | place {keeps : Bool} {known : List (String × Form)} {key : String} {form : Form} {n n' : Node}
      (before after : List Node) (hkey : (known.map Prod.fst)[before.length]? = some key)
      (hform : known.lookup key = some form) (h : Edit kept form n n') :
      Edit kept (.record keeps known) (.row (before ++ n :: after)) (.row (before ++ n' :: after))
  | item {form : Form} {n n' : Node} (before after : List Node) (h : Edit kept form n n') :
      Edit kept (.list form) (.row (before ++ n :: after)) (.row (before ++ n' :: after))

variable {kept : Node → Prop} {form : Form} {n n' : Node}

/-- An edit turns records into records, and rows into rows of the same length. -/
theorem Edit.shape (h : Edit kept form n n') :
    (∃ fs fs', n = .record fs ∧ n' = .record fs') ∨
      ∃ items items', n = .row items ∧ n' = .row items' ∧ items.length = items'.length := by
  cases h with
  | permute | add | field => exact .inl ⟨_, _, rfl, rfl⟩
  | place before after | item before after =>
    exact .inr ⟨_, _, rfl, rfl, by rw [List.length_append, List.length_append]; rfl⟩

/-- A value, or what one edit makes of it. -/
abbrev Near (kept : Node → Prop) (form : Form) : Node → Node → Prop :=
  Relation.ReflGen (Edit kept form)

end Node

end ServiceApi
