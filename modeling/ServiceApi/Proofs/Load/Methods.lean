import ServiceApi.Load.Methods
import ServiceApi.Proofs.Document.Schemas
import ServiceApi.Proofs.List

/-! # Which declaration of a method counts

Of the declarations that a service class makes or inherits under one signature the methods that it
exposes have the most derived, and no other. -/

namespace ServiceApi

/-- What overriding goes by: the name, and the types of the parameters up to their arguments. -/
def EndpointMethod.signature (m : EndpointMethod) : String × List TypeExpr :=
  (m.name, m.parameterTypes.map (·.erased))

namespace Catalog

variable {c : Catalog} {serviceClass : String} {seen : List (String × List TypeExpr)}
  {e : EndpointMethod × MethodDecl}

/-- All that a class declares or inherits for exposure, the most derived declarations first. -/
def declarations (c : Catalog) (serviceClass : String) : List (EndpointMethod × MethodDecl) :=
  (c.classViews (c.classes.size + 1) [] (.raw serviceClass)).flatMap fun (view, decl) =>
    c.declaredMethods serviceClass view decl

/-- The most derived declaration with a signature. -/
def mostDerived? (c : Catalog) (serviceClass : String) (signature : String × List TypeExpr) :
    Option (EndpointMethod × MethodDecl) :=
  (c.declarations serviceClass).find? (·.1.signature = signature)

theorem firstBySignature_cons (seen : List (String × List TypeExpr))
    (e : EndpointMethod × MethodDecl)
    (ms : List (EndpointMethod × MethodDecl)) : firstBySignature seen (e :: ms) =
      if seen.contains e.1.signature then firstBySignature seen ms
      else e :: firstBySignature (e.1.signature :: seen) ms := rfl

theorem mem_firstBySignature : ∀ {seen : List (String × List TypeExpr)}
    {ms : List (EndpointMethod × MethodDecl)}, e ∈ firstBySignature seen ms ↔
      e.1.signature ∉ seen ∧ ms.find? (·.1.signature = e.1.signature) = some e
  | _, [] => by simp [firstBySignature]
  | seen, first :: ms => by
    rw [firstBySignature_cons, List.find?_cons]
    by_cases hseen : first.1.signature ∈ seen
    · rw [if_pos (List.contains_iff_mem.mpr hseen), mem_firstBySignature]
      refine and_congr_right fun hnew => ?_
      have hne : first.1.signature ≠ e.1.signature := fun heq => hnew (heq ▸ hseen)
      rw [decide_eq_false hne]
    · rw [if_neg (by simpa using hseen), List.mem_cons, mem_firstBySignature]
      by_cases heq : first.1.signature = e.1.signature
      · rw [decide_eq_true heq, ← heq]
        simp [hseen, eq_comm]
      · have hne : e ≠ first := by
          rintro rfl
          exact heq rfl
        rw [decide_eq_false heq]
        simp [hne, Ne.symm heq]

theorem nodup_firstBySignature : ∀ (seen : List (String × List TypeExpr))
    (ms : List (EndpointMethod × MethodDecl)),
      ((firstBySignature seen ms).map (·.1.signature)).Nodup
  | _, [] => List.nodup_nil
  | seen, first :: ms => by
    rw [firstBySignature_cons]
    split
    · exact nodup_firstBySignature seen ms
    · refine List.nodup_cons.mpr ⟨fun hmem => ?_, nodup_firstBySignature _ ms⟩
      obtain ⟨e, he, heq⟩ := List.mem_map.mp hmem
      exact (mem_firstBySignature.mp he).1 (heq ▸ List.mem_cons_self)

theorem endpointMethods_ok {ms : List (EndpointMethod × MethodDecl)}
    (h : c.endpointMethods serviceClass = .ok ms) :
    (∀ e ∈ ms, c.mostDerived? serviceClass e.1.signature = some e) ∧ (ms.map (·.1.key)).Nodup := by
  obtain ⟨_, -, h⟩ := ok_of_bind h
  cases h
  refine ⟨fun e he => (mem_firstBySignature.mp he).2, ?_⟩
  refine nodup_map_of_nodup_map (nodup_firstBySignature [] _) fun e _ e' _ heq => ?_
  exact congrArg (fun k : MethodKey => (k.name, k.parameterTypes)) heq

end Catalog

end ServiceApi
