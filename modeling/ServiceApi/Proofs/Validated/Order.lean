import ServiceApi.Proofs.Validated

/-! # Validation in any order

Only the first configuration is compared with the others and named, and what methods must differ in
is noted along the way. Since agreement is an equivalence, none of this hangs on which configuration
comes first: what it takes to pass speaks of the group, not of its order. Which error is found may
differ. -/

namespace ServiceApi

variable {configs configs' : List ApiConfig}

theorem perm_activeMethods (h : configs.Perm configs') :
    (activeMethods configs).Perm (activeMethods configs') := (h.flatMap_right _).filter _

namespace Validate

theorem Accepted.perm {fuel : Nat} (h : configs.Perm configs') (hc : Accepted fuel configs) :
    Accepted fuel configs' := by
  have hmethods := perm_activeMethods h
  constructor
  case agree => exact fun a ha b hb => hc.agree a (h.mem_iff.mpr ha) b (h.mem_iff.mpr hb)
  case name => exact fun a ha => hc.name a (h.mem_iff.mpr ha)
  case methods => exact fun m hm => hc.methods m (hmethods.mem_iff.mpr hm)
  case names => exact (hmethods.map _).nodup_iff.mp hc.names
  case signatures => exact (hmethods.map _).nodup_iff.mp hc.signatures

theorem validation_ignores_order (fuel : Nat) (h : configs.Perm configs') :
    Validate.configs fuel configs = .ok () ↔ Validate.configs fuel configs' = .ok () := by
  rw [configs_eq_ok_iff, configs_eq_ok_iff]
  exact ⟨Accepted.perm h, Accepted.perm h.symm⟩

/-- A service class with one method, which trusts some issuers. -/
def trusting (serviceClass : String) (issuers : List Issuer) : ApiConfig :=
  let list : EndpointMethod :=
    { serviceClass, declaringClass := serviceClass, name := "list" ++ serviceClass }
  ({ ApiConfig.default ⟨"library", .builtin⟩ {} serviceClass with
    issuers := .ofList issuers }).setMethods <|
    OrderedMap.empty.insert list.key
      { MethodConfig.ofMethod list with path := Text.decapitalize serviceClass }

/-- Three classes that list their two issuers in different orders. -/
theorem validation_ignores_order_trusting :
    let a : Issuer := ⟨"a", "https://a.example", "https://a.example/keys"⟩
    let b : Issuer := ⟨"b", "https://b.example", "https://b.example/keys"⟩
    let books := trusting "Books" [a, b]
    let authors := trusting "Authors" [b, a]
    let shelves := trusting "Shelves" [a, b]
    [books, authors, shelves].Perm [authors, shelves, books] ∧
      Validate.configs 9 [authors, shelves, books] = .ok () := by
  intro a b books authors shelves
  have hperm : ([books] ++ [authors, shelves]).Perm ([authors, shelves] ++ [books]) :=
    List.perm_append_comm
  obtain ⟨⟨⟩, hvalid⟩ : ∃ r, Validate.configs 9 [books, authors, shelves] = .ok r :=
    exists_of_isOk (by decide +kernel)
  exact ⟨hperm, (validation_ignores_order 9 hperm).mp hvalid⟩

end Validate

end ServiceApi
