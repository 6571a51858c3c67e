import ServiceApi.Proofs.Document.Collections
import ServiceApi.Proofs.Document.Parameters
import ServiceApi.Proofs.Document.Requests
import ServiceApi.Proofs.Generation.Validation
import ServiceApi.Proofs.Repository.Beans

/-! # The names of a body and of the parameters beside it

Validation compares the names of the API parameters with those of the properties that the body of
the request has, which it collects on its own. These are the names of the fields of a schema, but of
the schema of the very type it looks at: where a transformer applies to what the body's type
becomes, the schema is that of another type. -/

namespace ServiceApi

open Compile Repository

variable {fuel fuel' : Nat} {configs : List ApiConfig} {m : MethodScope} {p : ParameterConfig}
  {t base : TypeExpr} {names names' apiNames : List String} {ps : List SentParameter}
  {repo u : Repository} {a : Compiled} {body : RequestBody}

/-- The fields have these names, and no others. -/
def Schema.HasNames (s : Schema) (names : List String) : Prop :=
  ∀ name, name ∈ s.fields.map (·.name) ↔ name ∈ names

namespace Validate

/-- The names are those of the properties that the schema of the type is made of. -/
theorem propertyNames_eq (fuel : Nat) (m : MethodScope) (t : TypeExpr) : propertyNames fuel m t =
    if t.isAnyObject || m.api.catalog.isMap t then .ok []
    else do return (← Schema.propertiesOf m.api.catalog fuel ⟨m.api.rules, t⟩).map (·.name) := by
  unfold propertyNames Schema.propertiesOf
  dsimp only
  split
  · rfl
  · rcases m.api.catalog.resourceSchema m.api.rules t with e | _ | resource
    · rfl
    · rfl
    · change Except.ok _ = Except.ok _
      rw [List.map_map]
      rfl

theorem propertyNames_unique (h : propertyNames fuel m t = .ok names)
    (h' : propertyNames fuel' m t = .ok names') : names = names' := by
  rcases Nat.le_total fuel fuel' with hle | hle
  · have hcut := propertyNames_cutShort hle m t
    rw [h, h'] at hcut
    exact Except.ok.inj (hcut.eq_of_ne nofun)
  · have hcut := propertyNames_cutShort hle m t
    rw [h, h'] at hcut
    exact (Except.ok.inj (hcut.eq_of_ne nofun)).symm

/-- The schema of a type that is neither repeated nor a scalar has the names that validation
finds. -/
theorem hasNames_of_planOf (hsingle : m.api.catalog.isArray t = false)
    (hcompound : m.api.catalog.isParameterType t = false)
    (h : (Schema.planOf m.api.catalog fuel ⟨m.api.rules, t⟩).outcome = .ok a) :
    ∃ names, propertyNames fuel m t = .ok names ∧ a.schema.HasNames names := by
  rw [propertyNames_eq]
  unfold Schema.planOf at h
  dsimp only at h
  split at h
  · rename_i hany
    cases h
    exact ⟨[], by rw [hany]; rfl, fun _ => Iff.rfl⟩
  · rename_i hany
    split at h
    · rename_i hmap
      cases h
      exact ⟨[], by rw [hmap, Bool.or_true]; rfl, fun _ => Iff.rfl⟩
    · rename_i hmap
      obtain ⟨s, hs, h, -⟩ := Plan.ok_of_bind h
      cases h
      rw [if_neg (by simp [hany, hmap])]
      unfold Schema.ownPlan at hs
      dsimp only at hs
      split at hs
      · cases hs
      · rename_i henum
        rw [Catalog.isParameterType, henum] at hcompound
        cases hcompound
      · rename_i harray
        rw [Catalog.isArray_eq harray (.inl rfl)] at hsingle
        cases hsingle
      · obtain ⟨ps, hps, hdescribes⟩ := Schema.ofBean_describes hs
        exact ⟨_, bind_eq_ok hps rfl, hdescribes.names⟩
      · cases hs

/-- What it says of a parameter that it passes as a body. -/
theorem resource_ok (h : resource fuel m apiNames p = .ok ())
    (hbase : p.baseType m.api.catalog m.api.rules = .ok base) :
    m.api.catalog.isArray base = false ∧ m.api.catalog.isParameterType base = false ∧
      ∃ names, propertyNames fuel m base = .ok names ∧ ∀ name ∈ names,
        name ∈ apiNames → name = "id" := by
  obtain ⟨base', hbase', h⟩ := ok_of_bind h
  cases hbase.symm.trans hbase'
  dsimp only at h
  split at h
  · cases h
  rename_i hsingle
  split at h
  · cases h
  rename_i hcompound
  obtain ⟨names, hnames, h⟩ := ok_of_bind h
  split at h
  · cases h
  rename_i hnone
  refine ⟨by simpa using hsingle, Bool.not_eq_true _ ▸ hcompound, names, hnames,
    fun name hname hapi => ?_⟩
  simpa [sharedNames, hapi] using List.find?_eq_none.mp hnone name hname

/-- The parameters that are noted as bodies begin with the one that is sent. -/
theorem resourceAmong_eq : ∀ {ps : List (ParameterConfig × Nat)} {sorted sorted' : Sorted},
    ps.foldlM (sortParameter m) sorted = .ok sorted' →
      ∃ resources, sorted'.resources = sorted.resources ++ resources ∧
        m.resourceAmong (ps.map Prod.fst) = .ok resources.head?
  | [], sorted, _, h => by
    cases h
    exact ⟨[], (List.append_nil _).symm, rfl⟩
  | (p, index) :: ps, sorted, sorted', h => by
    rw [List.foldlM_cons] at h
    obtain ⟨next, hp, h⟩ := ok_of_bind h
    obtain ⟨resources, hresources, hamong⟩ := resourceAmong_eq h
    rw [List.map_cons, MethodScope.resourceAmong]
    rcases sortParameter_ok hp with ⟨hkind, rfl⟩ | ⟨name, hkind, -, rfl⟩ | ⟨hkind, -, rfl⟩
    · exact ⟨resources, hresources, bind_eq_ok hkind hamong⟩
    · exact ⟨resources, hresources, bind_eq_ok hkind hamong⟩
    · exact ⟨p :: resources, hresources.trans (List.append_assoc _ _ _), bind_eq_ok hkind rfl⟩

/-- The body of a method that passes has passed beside the API parameters. -/
theorem resource_of_method_ok (h : method fuel m = .ok ())
    (hbody : m.resourceAmong m.method.parameters = .ok (some p)) :
    resource fuel m m.apiNames p = .ok () := by
  obtain ⟨-, sorted, hsorted, -, hresource⟩ := method_ok h
  obtain ⟨resources, hresources, hamong⟩ := resourceAmong_eq hsorted
  rw [List.zipIdx_map_fst, hbody] at hamong
  rw [← (apiNames_eq hsorted).2]
  refine hresource p ?_
  rw [hresources]
  exact (Except.ok.inj hamong).symm

end Validate

namespace MethodScope

theorem requestBody_ok (h : (m.requestBody fuel).result repo = (.ok (some body), u)) :
    ∃ p base a, m.resourceAmong m.method.parameters = .ok (some p) ∧
      p.baseType m.api.catalog m.api.rules = .ok base ∧
        (getOrAdd fuel base m.api).result repo = (.ok a, u) ∧
      body = p.bodyOf a.schema := by
  obtain ⟨p?, hp, h⟩ := ok_of_ofExcept h
  cases p? with
  | none => cases h
  | some p =>
    obtain ⟨base, hbase, h⟩ := ok_of_ofExcept h
    obtain ⟨a, t, ha, h⟩ := Compile.ok_of_bind h
    cases h
    exact ⟨p, base, a, hp, hbase, ha, rfl⟩

/-- In a method that passed, no property that the type of the body has goes by the name of an API
parameter, `id` apart. The fields of the body have the names of the properties of what this type
becomes once more. If that is the type itself, no field goes by the name of an API parameter
either. -/
theorem bodies_and_parameters_share_only_ids (hvalid : Validate.configs fuel configs = .ok ())
    (hm : m ∈ activeMethods configs) (hrepo : UsedOver m.api.catalog repo)
    (hbody : (m.requestBody fuel').result repo = (.ok (some body), u))
    (hsent : m.sentParameters = .ok ps) :
    ∃ p base names resolved, m.resourceAmong m.method.parameters = .ok (some p) ∧
      p.baseType m.api.catalog m.api.rules = .ok base ∧
        Validate.propertyNames fuel m base = .ok names ∧
      (∀ q ∈ ps, q.name ∈ names → q.name = "id") ∧
      m.api.catalog.schemaType m.api.rules base = .ok resolved ∧
      (m.api.catalog.isArray resolved = false → m.api.catalog.isParameterType resolved = false →
        ∃ n names', Validate.propertyNames n m resolved = .ok names' ∧
          body.schema.HasNames names') ∧
      (resolved = base → body.schema.HasNames names ∧
        ∀ q ∈ ps, q.name ∈ body.schema.fields.map (·.name) → q.name = "id") := by
  obtain ⟨p, base, a, hp, hbase, hcall, rfl⟩ := requestBody_ok hbody
  have hpassed := Validate.resource_of_method_ok (Validate.method_of_ok hvalid hm) hp
  obtain ⟨hsingle, hcompound, names, hnames, hclash⟩ := Validate.resource_ok hpassed hbase
  obtain ⟨resolved, n, hresolved, hplan⟩ := getOrAdd_planned hrepo rfl hcall
  have hshared : ∀ q ∈ ps, q.name ∈ names → q.name = "id" := fun q hq hname =>
    hclash q.name hname ((sentParameters_perm hsent).1.mem_iff.mp (List.mem_map_of_mem hq))
  have hresolvedNames (hsingle : m.api.catalog.isArray resolved = false)
      (hcompound : m.api.catalog.isParameterType resolved = false) :
      ∃ n names', Validate.propertyNames n m resolved = .ok names' ∧ a.schema.HasNames names' :=
    ⟨n, Validate.hasNames_of_planOf hsingle hcompound hplan⟩
  refine ⟨p, base, names, resolved, hp, hbase, hnames, hshared, hresolved, hresolvedNames, ?_⟩
  rintro rfl
  obtain ⟨n, names', hnames', hfields⟩ := hresolvedNames hsingle hcompound
  cases Validate.propertyNames_unique hnames hnames'
  exact ⟨hfields, fun q hq hname => hshared q hq ((hfields q.name).mp hname)⟩

end MethodScope

/-- Coins are sent as amounts, and amounts as `amount` says. -/
def currency (amount : Option String) : Catalog :=
  (([{ name := "Coin", transformer := some "CoinToAmount" },
    { name := "Amount", transformer := amount, properties := [
      { name := "id", type := .raw "String" }, { name := "value", type := .raw "String" }] },
    { name := "Cents", properties := [{ name := "count", type := .raw "Integer" }] }].foldl
      Catalog.addClass .builtin).addTransformer
        { name := "CoinToAmount", source := .raw "Coin", target := .raw "Amount" }).addTransformer
    { name := "AmountToCents", source := .raw "Amount", target := .raw "Cents" }

/-- The parameter that takes a coin. -/
def paidCoin : ParameterConfig := { name := some "coin", type := .raw "Coin" }

/-- A method that takes a coin, how often, and for whom. -/
def pay : MethodConfig :=
  { endpoint := { serviceClass := "Till", declaringClass := "Till", name := "pay",
                  parameterTypes := [.raw "Coin", .raw "Integer", .raw "String"] }
    name := "till.pay", path := "pay", httpMethod := "POST", impliedResource := none
    parameters := [paidCoin, { name := some "count", type := .raw "Integer" },
      { name := some "id", type := .raw "String" }] }

def tillConfig (amount : Option String) : ApiConfig :=
  (ApiConfig.default ⟨"currency", currency amount⟩ {} "Till").setMethods <|
    OrderedMap.empty.insert pay.endpoint.key pay

namespace MethodScope

theorem bodies_and_parameters_share_only_ids_pay :
    let m : MethodScope := ⟨tillConfig none, pay⟩
    Validate.configs 9 [m.api] = .ok () ∧ m ∈ activeMethods [m.api] ∧
      ∃ body u ps, (m.requestBody 9).result {} = (.ok (some body), u) ∧ m.sentParameters = .ok ps ∧
        body.schema.HasNames ["id", "value"] ∧ ∀ q ∈ ps, q.name ∈ body.schema.fields.map (·.name) →
          q.name = "id" := by
  intro m
  have hm : m ∈ activeMethods [m.api] := List.mem_singleton_self m
  obtain ⟨⟨⟩, hvalid⟩ : ∃ r, Validate.configs 9 [m.api] = .ok r :=
    exists_of_isOk (by decide +kernel)
  obtain ⟨ps, hps⟩ : ∃ ps, m.sentParameters = .ok ps := exists_of_isOk (by decide +kernel)
  have hcoin : m.resourceAmong m.method.parameters = .ok (some paidCoin) := by rfl
  have hamount : paidCoin.baseType m.api.catalog m.api.rules = .ok (.raw "Amount") := by rfl
  have hagain : m.api.catalog.schemaType m.api.rules (.raw "Amount") = .ok (.raw "Amount") := by rfl
  have hproperties : Validate.propertyNames 9 m (.raw "Amount") = .ok ["id", "value"] := by rfl
  obtain ⟨a, u, hcall⟩ : ∃ a u,
      (Repository.getOrAdd 9 (.raw "Amount") m.api).result {} = (.ok a, u) :=
    exists_result_of_isOk (by decide +kernel)
  have hbody : (m.requestBody 9).result {} = (.ok (some (paidCoin.bodyOf a.schema)), u) := by
    rw [requestBody_eq 9 hcoin hamount, bind_of_ok hcall]
    rfl
  obtain ⟨p, base, names, resolved, hp, hbase, hnames, -, hresolved, -, hsame⟩ :=
    bodies_and_parameters_share_only_ids hvalid hm .new hbody hps
  cases hcoin.symm.trans hp
  cases hamount.symm.trans hbase
  cases hproperties.symm.trans hnames
  cases hagain.symm.trans hresolved
  exact ⟨hvalid, hm, _, u, ps, hbody, hps, hsame rfl⟩

/-- Where amounts are sent as cents, a coin is asked for as cents: the body has a field for their
count, although there is a parameter of this name and the method passes. -/
theorem count_is_asked_for_twice :
    let m : MethodScope := ⟨tillConfig (some "AmountToCents"), pay⟩
    Validate.configs 9 [m.api] = .ok () ∧ m ∈ activeMethods [m.api] ∧
      ((m.requestBody 9).result {}).1.toOption.join.map (·.schema.fields.map (·.name)) =
        some ["count"] ∧
      m.sentParameters.toOption.map (·.map (·.name)) = some ["count", "id"] := by
  intro m
  obtain ⟨⟨⟩, hvalid⟩ : ∃ r, Validate.configs 9 [m.api] = .ok r :=
    exists_of_isOk (by decide +kernel)
  exact ⟨hvalid, List.mem_singleton_self m, by decide +kernel, by decide +kernel⟩

end MethodScope

end ServiceApi
