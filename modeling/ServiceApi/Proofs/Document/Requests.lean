import ServiceApi.Proofs.Document.Bodies

/-! # Requests and responses of one type

The body of a request has the schema of what its type becomes under a transformer, and a repository
puts a type through its transformer before it compiles it. So the type of a request goes through two
transformers and that of a response through one. They agree where no plain transformer applies to
what a type becomes. -/

namespace ServiceApi

open Compile Repository

variable {m : MethodScope} {p : ParameterConfig} {c : Catalog} {rules : SerializationRules}

namespace ParameterConfig

theorem baseType_eq (h : p.transformers = none) :
    p.baseType c rules = c.schemaType rules p.type := by
  rw [baseType, effectiveTransformers, h, Option.getD_none, Catalog.schemaType,
    Catalog.primaryTransformer]
  cases c.transformersOf rules p.type with
  | nil => rfl
  | cons name _ =>
    dsimp only [applyFirst]
    cases c.instantiate name p.type <;> rfl

theorem baseType_ok (h : p.classification c rules = .ok .resource) :
    ∃ base, p.baseType c rules = .ok base := by
  rw [classification] at h
  split at h
  · cases h
  · split at h
    · cases h
    · obtain ⟨base, hbase, -⟩ := ok_of_bind h
      exact ⟨base, hbase⟩

end ParameterConfig

theorem MethodScope.classification_of_resourceAmong {ps : List ParameterConfig}
    (h : m.resourceAmong ps = .ok (some p)) :
    p ∈ ps ∧ p.classification m.api.catalog m.api.rules = .ok .resource := by
  induction ps with
  | nil => cases h
  | cons q ps ih =>
    rw [resourceAmong] at h
    obtain ⟨kind, hkind, h⟩ := ok_of_bind h
    split at h
    · rename_i hres
      cases h
      exact ⟨List.mem_cons_self, hres ▸ hkind⟩
    · obtain ⟨hmem, hp⟩ := ih h
      exact ⟨List.mem_cons_of_mem q hmem, hp⟩

/-- The body that a parameter is sent as. -/
def ParameterConfig.bodyOf (p : ParameterConfig) (s : Schema) : RequestBody :=
  { parameterName := p.name.getD "resource", schema := s }

theorem MethodScope.requestBody_eq {type : TypeExpr} (fuel : Nat)
    (hbody : m.resourceAmong m.method.parameters = .ok (some p))
    (htype : p.baseType m.api.catalog m.api.rules = .ok type) :
    m.requestBody fuel = do return some (p.bodyOf (← getOrAdd fuel type m.api).schema) := by
  rw [requestBody, hbody]
  change (Compile.ofExcept (p.baseType m.api.catalog m.api.rules) >>= _) = _
  rw [htype]
  rfl

/-- A request for a parameter of type `t` has the schema of what `t` becomes under its transformer,
with the transformer of that applied as well. It is the schema that a response of type `t` has, if
and only if transforming again changes nothing. -/
theorem request_and_response_agree {repo : Repository} (hrepo : Reachable repo)
    (hbody : m.resourceAmong m.method.parameters = .ok (some p))
    (hp : p.transformers = none) (fuel : Nat) :
    ∃ base, m.api.catalog.schemaType m.api.rules p.type = .ok base ∧
      m.requestBody fuel = (do return some (p.bodyOf (← getOrAdd fuel base m.api).schema)) ∧
      (m.bodyKey = (m.keyOf p.type).map some ↔
        m.api.catalog.schemaType m.api.rules base = .ok base) ∧
      (m.api.catalog.schemaType m.api.rules base = .ok base →
        (m.requestBody fuel).result repo =
          Compile.result (do return some (p.bodyOf (← getOrAdd fuel p.type m.api).schema)) repo ∧
        ∀ m' : MethodScope, m'.api = m.api → m'.method.returnType? = some p.type →
          Compile.result (do return (← m.requestBody fuel).map (·.schema)) repo =
            (m'.responseSchema fuel).result repo) := by
  obtain ⟨base, hbase⟩ :=
    ParameterConfig.baseType_ok (MethodScope.classification_of_resourceAmong hbody).2
  have heq := MethodScope.requestBody_eq fuel hbody hbase
  have ht : m.api.catalog.schemaType m.api.rules p.type = .ok base :=
    (ParameterConfig.baseType_eq hp).symm.trans hbase
  have hresponse : m.keyOf p.type = .ok ⟨m.api.rules, base⟩ := by rw [MethodScope.keyOf, ht]; rfl
  have hrequest : m.bodyKey = (m.keyOf base).map some := by
    simp only [MethodScope.bodyKey, hbody, hbase, bind, Except.bind]
    cases m.keyOf base <;> rfl
  refine ⟨base, ht, heq, ?_, fun hagain => ?_⟩
  · have hagain :
        m.keyOf base = (m.api.catalog.schemaType m.api.rules base).map (⟨m.api.rules, ·⟩) := rfl
    rw [hrequest, hresponse, hagain]
    cases m.api.catalog.schemaType m.api.rules base <;> simp [Except.map]
  · have hsame := getOrAdd_congr hrepo.sound trivial hagain ht fuel
    refine ⟨?_, fun m' hapi hreturn => ?_⟩
    · rw [heq, result_bind, result_bind, hsame]
    · rw [heq, MethodScope.responseSchema, hreturn, hapi]
      dsimp only
      rw [result_bind, result_bind, result_bind, hsame]
      rcases (getOrAdd fuel p.type m.api).result repo with ⟨r, u⟩
      cases r <;> rfl

/-- Coins are sent as amounts, and amounts as `amount` says. -/
def coins (amount : Option String) : Catalog :=
  ((((Catalog.builtin.addClass { name := "Coin", transformer := some "CoinToAmount" }).addClass
    { name := "Amount", transformer := amount }).addClass { name := "Cents" }).addTransformer
    { name := "CoinToAmount", source := .raw "Coin", target := .raw "Amount" }).addTransformer
    { name := "AmountToCents", source := .raw "Amount", target := .raw "Cents" }

/-- The parameter that takes a coin. -/
def coin : ParameterConfig := { name := some "coin", type := .raw "Coin" }

/-- A method that takes a coin and gives one back. -/
def change : MethodConfig :=
  { endpoint := { serviceClass := "Purse", declaringClass := "Purse", name := "change",
                  parameterTypes := [.raw "Coin"], returnType := some (.raw "Coin") }
    name := "purse.change", path := "change", httpMethod := "POST", impliedResource := none
    parameters := [coin] }

def coinConfig (amount : Option String) : ApiConfig :=
  (ApiConfig.default ⟨"coins", coins amount⟩ {} "Purse").setMethods <|
    OrderedMap.empty.insert change.endpoint.key change

theorem request_and_response_agree_coin :
    let m : MethodScope := ⟨coinConfig none, change⟩
    m.resourceAmong m.method.parameters = .ok (some coin) ∧
      Compile.result (do return (← m.requestBody 9).map (·.schema)) {} =
        (m.responseSchema 9).result {} := by
  intro m
  have hbody : m.resourceAmong m.method.parameters = .ok (some coin) := by rfl
  obtain ⟨base, hbase, -, -, hagree⟩ := request_and_response_agree .new hbody rfl 9
  have hamount : m.api.catalog.schemaType m.api.rules coin.type = .ok (.raw "Amount") := by rfl
  have hagain : m.api.catalog.schemaType m.api.rules (.raw "Amount") = .ok (.raw "Amount") := by rfl
  cases hamount.symm.trans hbase
  exact ⟨hbody, (hagree hagain).2 m rfl rfl⟩

/-- Where amounts are sent as cents, a coin is asked for as cents and given back as an amount. -/
theorem request_is_transformed_twice :
    let m : MethodScope := ⟨coinConfig (some "AmountToCents"), change⟩
    (Validate.configs 9 [m.api]).isOk = true ∧ activeMethods [m.api] = [m] ∧
      m.resourceAmong m.method.parameters = .ok (some coin) ∧
      ((m.requestBody 9).result {}).1.toOption.join.map (·.schema.name) = some "Cents" ∧
      ((getOrAdd 9 coin.type m.api).result {}).1.toOption.map (·.schema.name) = some "Amount" ∧
      ((m.responseSchema 9).result {}).1.toOption.join.map (·.name) = some "Amount" := by
  intro m
  exact ⟨by decide +kernel, rfl, by rfl, by decide +kernel, by decide +kernel, by decide +kernel⟩

end ServiceApi
