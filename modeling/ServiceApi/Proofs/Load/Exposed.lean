import ServiceApi.Proofs.Load.Tiers

/-! # What a service class exposes

The walk from the service class up comes to an end in every catalog, whatever extends what. Of the
declarations that it passes, those that are public and not static count, and of these one for each
signature: the first in the most derived class that has any. A load makes one configuration of
each. -/

namespace ServiceApi

open TypeExpr (Bindings)

/-! ## The walk up -/

namespace Catalog

variable {c : Catalog} {visited : List String} {t : TypeExpr} {decl : ClassDecl}

/-- The walk does not go into this class. -/
def IsPassedOver (visited : List String) (decl : ClassDecl) : Prop :=
  decl.name = objectName ∨ decl.name ∈ visited

/-- The walk up from `t` meets the classes of `views`, each with the view that the start has of it.
It ends at an unknown class, at `Object`, at a class that was met before, and where there is no
superclass. -/
inductive Ascends (c : Catalog) : (visited : List String) → TypeExpr →
    List (TypeExpr × ClassDecl) → Prop
  | stop {visited : List String} {t : TypeExpr}
      (h : ∀ decl ∈ c.declOf? t, IsPassedOver visited decl) : Ascends c visited t []
  | top {visited : List String} {t : TypeExpr} {decl : ClassDecl} (hdecl : c.declOf? t = some decl)
      (hgo : ¬ IsPassedOver visited decl) (hnone : c.superclass? t = none) :
        Ascends c visited t [(t, decl)]
  | up {visited : List String} {t next : TypeExpr} {decl : ClassDecl}
      {views : List (TypeExpr × ClassDecl)}
      (hdecl : c.declOf? t = some decl) (hgo : ¬ IsPassedOver visited decl)
      (hnext : c.superclass? t = some next) (h : Ascends c (decl.name :: visited) next views) :
      Ascends c visited t ((t, decl) :: views)

/-- The classes that have not been met. -/
def unmet (c : Catalog) (visited : List String) : List ClassDecl :=
  c.classes.values.filter (·.name ∉ visited)

theorem unmet_length_le (c : Catalog) (visited : List String) :
    (c.unmet visited).length ≤ c.classes.size :=
  Nat.le_trans (List.length_filter_le _ _) (Nat.le_of_eq (List.length_map _))

theorem unmet_step (hdecl : c.declOf? t = some decl) (hnew : decl.name ∉ visited) :
    (c.unmet (decl.name :: visited)).length < (c.unmet visited).length := by
  have hmem : decl ∈ c.unmet visited := by
    obtain ⟨name, -, hclass⟩ := Option.bind_eq_some_iff.mp hdecl
    have hentry : (name, decl) ∈ c.classes.entries := OrderedMap.mem_entries_iff.mpr hclass
    exact List.mem_filter.mpr ⟨List.mem_map_of_mem hentry, decide_eq_true hnew⟩
  have hless : c.unmet (decl.name :: visited) = (c.unmet visited).filter (·.name ≠ decl.name) := by
    unfold unmet
    rw [List.filter_filter]
    refine List.filter_congr fun d _ => ?_
    rw [← Bool.decide_and, decide_eq_decide, List.mem_cons, not_or]
  rw [hless, List.length_filter_lt_length_iff_exists]
  exact ⟨decl, hmem, by simp⟩

/-- Each step meets a class, so the walk ends before the fuel does. -/
theorem ascends_classViews : ∀ (fuel : Nat) (visited : List String) (t : TypeExpr),
    (c.unmet visited).length < fuel → c.Ascends visited t (c.classViews fuel visited t)
  | 0, _, _, h => absurd h (Nat.not_lt_zero _)
  | fuel + 1, visited, t, h => by
    unfold classViews
    split
    · rename_i hnone
      exact .stop fun decl hdecl => by cases hnone.symm.trans hdecl
    · rename_i decl hdecl
      split
      · rename_i hover
        refine .stop fun decl' hdecl' => ?_
        cases hdecl.symm.trans hdecl'
        simpa [IsPassedOver] using hover
      · rename_i hgo
        have hgo : ¬ IsPassedOver visited decl := by simpa [IsPassedOver] using hgo
        have hsuper : c.superclass? t = decl.superclass.map (·.substitute (c.bindings t)) := by
          unfold superclass?
          rw [hdecl, Option.bind_some]
        have hrest : (c.unmet (decl.name :: visited)).length < fuel := by
          have := unmet_step hdecl fun hmet => hgo (Or.inr hmet)
          omega
        split
        · rename_i hnone
          exact .top hdecl hgo (by rw [hsuper, hnone]; rfl)
        · rename_i s hs
          exact .up hdecl hgo (by rw [hsuper, hs]; rfl) (ascends_classViews fuel _ _ hrest)

theorem ascends_from (c : Catalog) (t : TypeExpr) :
    c.Ascends [] t (c.classViews (c.classes.size + 1) [] t) :=
  ascends_classViews _ _ _ (Nat.lt_succ_of_le (c.unmet_length_le _))

end Catalog

/-! ## The declaration that counts -/

def MethodDecl.isExposed (m : MethodDecl) : Bool := m.isPublic && !m.isStatic

/-- The name of a method and the types of its parameters in a view of its class, up to their
arguments. -/
def MethodDecl.signatureIn (c : Catalog) (view : TypeExpr) (m : MethodDecl) :
    String × List TypeExpr :=
  (m.name, m.params.map fun p => (p.type.substitute (c.bindings view)).erased)

/-- What the method returns in a view of its class; nothing for `void`. -/
def MethodDecl.returnsIn (c : Catalog) (view : TypeExpr) (m : MethodDecl) : Option TypeExpr :=
  (m.returnType.map (·.substitute (c.bindings view))).filter (!·.isVoid)

namespace Catalog

variable {c : Catalog} {serviceClass : String} {views : List (TypeExpr × ClassDecl)}

/-- A declaration as the service class exposes it. -/
def exposedAs (c : Catalog) (serviceClass : String) (v : TypeExpr × ClassDecl) (m : MethodDecl) :
    EndpointMethod where
  serviceClass
  declaringClass := v.2.name
  name := m.name
  parameterTypes := m.params.map (·.type.substitute (c.bindings v.1))
  returnType := (m.returnType.filter (!·.isVoid)).map (·.substitute (c.bindings v.1))

/-- The first exposed declaration with a signature, in the first class of `views` that has any. -/
def firstExposed? (c : Catalog) (views : List (TypeExpr × ClassDecl))
    (signature : String × List TypeExpr) : Option ((TypeExpr × ClassDecl) × MethodDecl) :=
  views.findSome? fun v =>
    (v.2.methods.find? fun m => m.isExposed && m.signatureIn c v.1 = signature).map (v, ·)

theorem signature_exposedAs (v : TypeExpr × ClassDecl) (m : MethodDecl) :
    (c.exposedAs serviceClass v m).signature = m.signatureIn c v.1 :=
  congrArg (Prod.mk m.name) List.map_map

theorem find?_declarations (signature : String × List TypeExpr) :
    (views.flatMap fun (view, decl) => c.declaredMethods serviceClass view decl).find?
        (·.1.signature = signature) =
      (c.firstExposed? views signature).map fun (v, m) => (c.exposedAs serviceClass v m, m) := by
  have hown (v : TypeExpr × ClassDecl) :
      (c.declaredMethods serviceClass v.1 v.2).find? (·.1.signature = signature) =
        ((v.2.methods.find? fun m => m.isExposed && m.signatureIn c v.1 = signature).map (v, ·)).map
          fun (v, m) => (c.exposedAs serviceClass v m, m) := by
    have hdeclared : c.declaredMethods serviceClass v.1 v.2 =
        (v.2.methods.filter (·.isExposed)).map fun m => (c.exposedAs serviceClass v m, m) := rfl
    rw [hdeclared, List.find?_map, List.find?_filter, Option.map_map]
    simp only [Function.comp_def, signature_exposedAs, Bool.decide_and, Bool.decide_eq_true]
  unfold firstExposed?
  rw [List.find?_flatMap, List.map_findSome?]
  exact congrArg (List.findSome? · views) (funext hown)

/-- Of the declarations with a signature the first is kept, and no other. -/
theorem filter_firstBySignature (signature : String × List TypeExpr) :
    ∀ (seen : List (String × List TypeExpr)) (es : List (EndpointMethod × MethodDecl)),
      (firstBySignature seen es).filter (·.1.signature = signature) =
        if signature ∈ seen then [] else (es.find? (·.1.signature = signature)).toList
  | seen, [] => by simp [firstBySignature]
  | seen, e :: es => by
    rw [firstBySignature_cons, List.find?_cons]
    -- Whether `e` stays depends on what was seen before it; whether it shows, on the signature
    -- asked for.
    by_cases hseen : e.1.signature ∈ seen
    · rw [if_pos (List.contains_iff_mem.mpr hseen), filter_firstBySignature signature seen es]
      by_cases heq : e.1.signature = signature
      · rw [if_pos (heq ▸ hseen), if_pos (heq ▸ hseen)]
      · rw [decide_eq_false heq]
    · rw [if_neg (by simpa using hseen), List.filter_cons, filter_firstBySignature signature _ es]
      by_cases heq : e.1.signature = signature
      · subst heq
        simp [hseen]
      · rw [decide_eq_false heq]
        simp [Ne.symm heq]

end Catalog

/-! ## What it returns -/

theorem TypeExpr.isVoid_substitute (env : Bindings) (t : TypeExpr) :
    (t.substitute env).isVoid = true ↔
    t.isVoid = true ∨ ∃ name, t = .var name ∧ env.get? name = some (.primitive .void) := by
  cases t with
  | var name => cases hname : env.get? name <;> simp [substitute, isVoid, hname]
  | _ => simp [substitute, isVoid]

/-- A return type is dropped as it is declared, before it is seen through the service class: what is
left is the type in that view unless a type variable stands for `void` there. -/
theorem Catalog.returnType_exposedAs_iff {c : Catalog} {serviceClass : String}
    {v : TypeExpr × ClassDecl}
    {m : MethodDecl} : (c.exposedAs serviceClass v m).returnType = m.returnsIn c v.1 ↔
      ¬ ∃ name, m.returnType = some (.var name) ∧
        (c.bindings v.1).get? name = some (.primitive .void) := by
  unfold exposedAs MethodDecl.returnsIn
  dsimp only
  cases m.returnType with
  | none => simp
  | some t =>
    have hvoid := TypeExpr.isVoid_substitute (c.bindings v.1) t
    have hvar : (∃ name, some t = some (.var name) ∧
      (c.bindings v.1).get? name = some (.primitive .void)) ↔
        (t.substitute (c.bindings v.1)).isVoid = true ∧ ¬ t.isVoid = true := by
      rw [hvoid]
      constructor
      · intro h
        obtain ⟨name, ⟨⟩, hname⟩ := h
        exact ⟨Or.inr ⟨name, rfl, hname⟩, by simp [TypeExpr.isVoid]⟩
      · intro h
        obtain ⟨hsubst, ht⟩ := h
        obtain ⟨name, rfl, hname⟩ := hsubst.resolve_left ht
        exact ⟨name, rfl, hname⟩
    rw [hvar, Option.filter_some, Option.map_some, Option.filter_some]
    by_cases ht : t.isVoid = true
    · simp [ht, hvoid]
    · by_cases hsubst : (t.substitute (c.bindings v.1)).isVoid = true <;> simp [ht, hsubst]

/-! ## One configuration of each -/

section Loading

variable {shared : SharedCatalog} {context : ServiceContext} {serviceClass : String}
  {decl : ClassDecl} {x y : ApiConfig}

/-- What a map of methods holds, as far as a service class decides it. -/
def MethodConfigs.endpoints (ms : MethodConfigs) : List (MethodKey × EndpointMethod) :=
  ms.entries.map fun e => (e.1, e.2.endpoint)

theorem ConfigSource.endpoints_annotations (h : annotations.runMethods context decl x = .ok y)
    (hnone : x.methods = .empty) : ∃ es, x.catalog.endpointMethods decl.name = .ok es ∧
      y.methods.endpoints = es.map fun e => (e.1.key, e.1) := by
  obtain ⟨methods, happly, rfl⟩ := runMethods_eq_ok.mp h
  obtain ⟨es, hes, hload⟩ := ok_of_bind happly
  obtain ⟨-, hnodup⟩ := Catalog.endpointMethods_ok hes
  rw [hnone] at hload
  obtain ⟨added, hentries, hadded⟩ :=
    MethodConfigs.foldlM_load_entries MethodConfigs.load_ok hload hnodup fun _ _ => rfl
  refine ⟨es, hes, ?_⟩
  show methods.entries.map (fun e => (e.1, e.2.endpoint)) = _
  rw [show methods.entries = added from hentries, ← List.forall₂_eq_eq_eq,
    List.forall₂_map_left_iff, List.forall₂_map_right_iff]
  exact hadded.flip.imp fun a e ⟨hkey, hm⟩ => Prod.ext hkey hm.endpoint

theorem Loader.endpoints_loaded (h : ({ shared } : Loader).loaded context serviceClass = .ok y) :
    ∃ decl es, shared.catalog.class? serviceClass = some decl ∧
      shared.catalog.endpointMethods decl.name = .ok es ∧
      y.methods.endpoints = es.map fun e => (e.1.key, e.1) := by
  obtain ⟨decl, top, hdecl, htop, hmethods⟩ := loaded_annotations _ _ h
  obtain ⟨hshared, hnone, -⟩ := ConfigSource.runClass_annotations htop
  obtain ⟨es, hes, hendpoints⟩ := ConfigSource.endpoints_annotations hmethods hnone
  have hcatalog : top.catalog = shared.catalog := congrArg SharedCatalog.catalog hshared
  exact ⟨decl, es, hdecl, hcatalog ▸ hes, hendpoints⟩

end Loading

namespace Catalog

variable {c : Catalog} {serviceClass : String} {decl : ClassDecl}

/-- A registered service class exposes one method for each signature that is declared for exposure
on the way up, which comes to an end: the first declaration with it in the most derived class that
has one, as the service class sees it. A return type is `void`, and not dropped, just if a type
variable stands for `void`. The methods have keys of their own, so a load from annotations makes one
configuration of each, in their order. -/
theorem exposed_methods_are_the_most_derived (hclass : c.class? serviceClass = some decl) :
    ∃ views es, c.Ascends [] (.raw serviceClass) views ∧ c.endpointMethods serviceClass = .ok es ∧
      (∀ signature, es.filter (·.1.signature = signature) = ((c.firstExposed? views signature).map
        fun (v, m) => (c.exposedAs serviceClass v m, m)).toList) ∧
      (∀ v m, (c.exposedAs serviceClass v m).returnType = m.returnsIn c v.1 ↔
        ¬ ∃ name, m.returnType = some (.var name) ∧ (c.bindings v.1).get? name =
          some (.primitive .void)) ∧
      (es.map (·.1.key)).Nodup ∧
      (decl.name = serviceClass →
        (∀ context x y, x.catalog = c → x.methods = .empty →
          ConfigSource.annotations.runMethods context decl x = .ok y →
            y.methods.endpoints = es.map fun e => (e.1.key, e.1)) ∧
        ∀ root context log y,
          (({ shared := ⟨root, c⟩ } : Loader).load context serviceClass).result log = .ok y →
            y.methods.endpoints = es.map fun e => (e.1.key, e.1)) := by
  have hes :
      c.endpointMethods serviceClass = .ok (firstBySignature [] (c.declarations serviceClass)) := by
    unfold endpointMethods requireClass
    rw [hclass]
    rfl
  refine ⟨_, _, c.ascends_from (.raw serviceClass), hes, fun signature => ?_,
    fun _ _ => returnType_exposedAs_iff, (endpointMethods_ok hes).2, fun hname => ⟨?_, ?_⟩⟩
  · unfold declarations
    rw [filter_firstBySignature, if_neg List.not_mem_nil, find?_declarations]
  · intro context x y hcatalog hnone h
    obtain ⟨es, hes', hendpoints⟩ := ConfigSource.endpoints_annotations h hnone
    rw [hcatalog, hname] at hes'
    cases hes.symm.trans hes'
    exact hendpoints
  · intro root context log y h
    rw [Loader.answers_load _ context serviceClass log] at h
    obtain ⟨decl', es, hdecl, hes', hendpoints⟩ := Loader.endpoints_loaded h
    cases hclass.symm.trans hdecl
    rw [hname] at hes'
    cases hes.symm.trans hes'
    exact hendpoints

/-- A store of books over a generic store, which extends the store of books in turn. -/
def stores : Catalog :=
  [{ name := "Store", typeParams := ["T"], superclass := some (.raw "BookStore"), methods := [
       { name := "insert", params := [{ type := .var "T" }], returnType := some (.var "T") },
       { name := "insert", params := [{ type := .raw "String" }] },
       { name := "sweep", returnType := some (.primitive .void) },
       { name := "create", isStatic := true }] },
   { name := "BookStore", superclass := some (.named "Store" [.raw "Book"]), methods := [
       { name := "insert", params := [{ type := .raw "Book" }] },
       { name := "audit", isPublic := false }] }
  ].foldl addClass builtin

theorem exposed_methods_are_the_most_derived_stores :
    ∃ views es, stores.Ascends [] (.raw "BookStore") views ∧
      stores.endpointMethods "BookStore" = .ok es ∧
      es.map (fun e => (e.1.declaringClass, e.1.name, e.1.parameterTypes)) =
        [("BookStore", "insert", [.raw "Book"]), ("Store", "insert", [.raw "String"]),
          ("Store", "sweep", [])] ∧
      (∀ signature, es.filter (·.1.signature = signature) =
        ((stores.firstExposed? views signature).map
          fun (v, m) => (stores.exposedAs "BookStore" v m, m)).toList) ∧
      (es.map (·.1.key)).Nodup := by
  have hclass : stores.class? "BookStore" = some _ := rfl
  have hexposed : stores.endpointMethods "BookStore" = .ok _ := rfl
  obtain ⟨views, es, hviews, hes, hone, -, hkeys, -⟩ := exposed_methods_are_the_most_derived hclass
  refine ⟨views, es, hviews, hes, ?_, hone, hkeys⟩
  cases hexposed.symm.trans hes
  rfl

/-- It returns what it is a probe of. -/
def probe : MethodDecl := { name := "get", returnType := some (.var "T") }

def probeBase : ClassDecl := { name := "Base", typeParams := ["T"], methods := [probe] }

/-- A probe of nothing. -/
def probes : Catalog :=
  (builtin.addClass probeBase).addClass
    { name := "Probe", superclass := some (.named "Base" [.primitive .void]) }

/-- Seen through the service class the method returns `void`, and `void` is what it is exposed
with. -/
theorem void_argument_stays_a_return_type :
    let view := (TypeExpr.named "Base" [.primitive .void], probeBase)
    probes.endpointMethods "Probe" = .ok [(probes.exposedAs "Probe" view probe, probe)] ∧
      (probes.exposedAs "Probe" view probe).returnType = some (.primitive .void) ∧
      probe.returnsIn probes view.1 = none :=
  ⟨rfl, rfl, rfl⟩

end Catalog

end ServiceApi
