import Mathlib.Data.List.Find
import ServiceApi.Catalog.Classify
import ServiceApi.Proofs.Catalog.Supertypes

/-! # Views of types with variables

What a type is seen as does not depend on what its variables stand for: they may be replaced before
or after. This takes classes that are applied to all their arguments, since a parameter that is left
open would be taken for a variable of the type, and clauses over the parameters of their class
alone. -/

namespace ServiceApi

open TypeExpr

/-! ## Replacing variables twice -/

namespace TypeExpr

variable {params : List String} {env first both : Bindings}

mutual

/-- All variables of the type are among `params`. -/
def isOver (params : List String) : TypeExpr → Bool
  | .primitive _ | .wildcard => true
  | .named _ args => allOver params args
  | .array item => item.isOver params
  | .var name => params.contains name
  | .bounded upper => upper.isOver params

def allOver (params : List String) : List TypeExpr → Bool
  | [] => true
  | t :: ts => t.isOver params && allOver params ts

end

mutual

/-- Where `first` binds all variables, what its values become under `env` is all that `env` does. -/
theorem substitute_substitute
    (hfirst : ∀ v ∈ params, ∃ x, first.get? v = some x ∧ both.get? v = some (x.substitute env)) :
    ∀ t : TypeExpr, t.isOver params = true → t.substitute both = (t.substitute first).substitute env
  | .primitive _, _ => rfl
  | .wildcard, _ => rfl
  | .named name args, h => by
    rw [isOver] at h
    simp only [substitute, substituteAll_substituteAll hfirst args h]
  | .array item, h => by
    rw [isOver] at h
    simp only [substitute, substitute_substitute hfirst item h]
  | .bounded upper, h => by
    rw [isOver] at h
    simp only [substitute, substitute_substitute hfirst upper h]
  | .var v, h => by
    rw [isOver, List.contains_iff_mem] at h
    obtain ⟨x, hx, hboth⟩ := hfirst v h
    simp only [substitute, hx, hboth, Option.getD_some]

theorem substituteAll_substituteAll
    (hfirst : ∀ v ∈ params, ∃ x, first.get? v = some x ∧ both.get? v = some (x.substitute env)) :
    ∀ ts : List TypeExpr, allOver params ts = true →
      substituteAll both ts = substituteAll env (substituteAll first ts)
  | [], _ => rfl
  | t :: ts, h => by
    rw [allOver, Bool.and_eq_true] at h
    simp only [substituteAll, substitute_substitute hfirst t h.1,
      substituteAll_substituteAll hfirst ts h.2]

end

theorem substitute_named (name : String) (args : List TypeExpr) :
    (named name args).substitute env = .named name (args.map (·.substitute env)) := by
  rw [substitute, substituteAll_eq_map]

/-- Parameters may be bound to arguments before or after the variables of these are replaced. -/
theorem substitute_arguments {t : TypeExpr} {args : List TypeExpr}
    (hlength : args.length = params.length) (ht : t.isOver params = true) :
    t.substitute (.ofList (params.zip (args.map (·.substitute env)))) =
      (t.substitute (.ofList (params.zip args))).substitute env := by
  refine substitute_substitute (fun v hv => ?_) t ht
  have hkey : v ∈ (params.zip args).map Prod.fst := by
    rwa [List.map_fst_zip (Nat.le_of_eq hlength.symm)]
  obtain ⟨x, hx⟩ := OrderedMap.exists_get?_ofList hkey
  have hboth : params.zip (args.map (·.substitute env)) =
      (params.zip args).map fun e => (e.1, e.2.substitute env) := List.zip_map_right
  exact ⟨x, hx, by rw [hboth, OrderedMap.get?_ofList_map (substitute env), hx, Option.map_some]⟩

end TypeExpr

/-! ## Classes and their clauses -/

/-- What the class `name` extends, in terms of its parameters: an enumeration without a superclass
extends `Enum`. -/
def ClassDecl.parents (decl : ClassDecl) (name : String) : List TypeExpr :=
  (match decl.superclass with
    | some sup => [sup]
    | none => if decl.kind = .enumeration then [.named Catalog.enumName [.raw name]] else []) ++
  decl.interfaces

namespace Catalog

variable {c : Catalog} {env : Bindings} {t : TypeExpr} {name : String}

/-- A class type with as many arguments as its class has parameters, if it is declared. -/
def isApplied (c : Catalog) : TypeExpr → Bool
  | .named name args => (c.class? name).all (args.length == ·.typeParams.length)
  | _ => false

/-- Every class extends class types over its own parameters, which give their classes all
arguments. -/
def WellApplied (c : Catalog) : Prop :=
  ∀ e ∈ c.classes.entries, ∀ parent ∈ e.2.parents e.1,
    c.isApplied parent = true ∧ parent.isOver e.2.typeParams = true

instance (c : Catalog) : Decidable c.WellApplied :=
  inferInstanceAs (Decidable (∀ e ∈ c.classes.entries, ∀ parent ∈ e.2.parents e.1,
    c.isApplied parent = true ∧ parent.isOver e.2.typeParams = true))

theorem directSupertypes_eq_map {decl : ClassDecl} (h : c.class? name = some decl)
    (args : List TypeExpr) : c.directSupertypes (.named name args) =
      (decl.parents name).map (·.substitute (.ofList (decl.typeParams.zip args))) := by
  have hbindings : c.bindings (.named name args) = .ofList (decl.typeParams.zip args) := by
    simp only [bindings, declOf?, rawName?, Option.bind_some, h, TypeExpr.args]
  simp only [directSupertypes, h, hbindings, ClassDecl.parents, List.map_append]
  cases decl.superclass with
  | some sup => rfl
  | none => dsimp only; split <;> rfl

theorem isApplied_substitute (h : c.isApplied t = true) :
    c.isApplied (t.substitute env) = true := by
  cases t with
  | named name args => simpa only [substitute_named, isApplied, List.length_map] using h
  | _ => cases h

theorem erased_substitute (h : c.isApplied t = true) : (t.substitute env).erased = t.erased := by
  cases t with
  | named name args => rfl
  | _ => cases h

theorem rawName?_substitute (h : c.isApplied t = true) :
    (t.substitute env).rawName? = t.rawName? := by
  cases t with
  | named name args => rfl
  | _ => cases h

theorem args_substitute (h : c.isApplied t = true) :
    (t.substitute env).args = t.args.map (·.substitute env) := by
  cases t with
  | named name args => rw [substitute_named]; rfl
  | _ => cases h

/-! ## The walk, before and after -/

/-- One step: an applied type has the supertypes that it had before, and they are applied. -/
theorem WellApplied.directSupertypes_substitute (h : c.WellApplied) (ht : c.isApplied t = true)
    (env : Bindings) :
    c.directSupertypes (t.substitute env) = (c.directSupertypes t).map (·.substitute env) ∧
      ∀ s ∈ c.directSupertypes t, c.isApplied s = true := by
  cases t with
  | named name args =>
    rw [substitute_named]
    cases hclass : c.class? name with
    | none => simp [directSupertypes, hclass]
    | some decl =>
      have hparents := h (name, decl) (OrderedMap.mem_entries_iff.mpr hclass)
      have hlength : args.length = decl.typeParams.length := by simpa [isApplied, hclass] using ht
      rw [directSupertypes_eq_map hclass, directSupertypes_eq_map hclass, List.map_map]
      refine ⟨List.map_congr_left fun parent hparent => ?_,
        List.forall_mem_map.mpr fun parent hparent => ?_⟩
      · exact substitute_arguments hlength (hparents parent hparent).2
      · exact isApplied_substitute (hparents parent hparent).1
  | _ => cases ht

/-- The whole walk, in step with the one before: what has been seen is the same up to type
arguments. -/
theorem WellApplied.closure_substitute (h : c.WellApplied) (env : Bindings) :
    ∀ (fuel : Nat) (seen : List TypeExpr) {queue : List TypeExpr},
      (∀ t ∈ queue, c.isApplied t = true) →
      c.closure fuel seen (queue.map (·.substitute env)) =
        (c.closure fuel seen queue).map (·.substitute env) ∧
        ∀ a ∈ c.closure fuel seen queue, c.isApplied a = true
  | 0, _, _, _ => by simp [closure]
  | _ + 1, _, [], _ => by simp [closure]
  | fuel + 1, seen, t :: queue, hqueue => by
    obtain ⟨ht, hqueue⟩ := List.forall_mem_cons.mp hqueue
    rw [List.map_cons, closure, closure, erased_substitute ht]
    split
    · exact h.closure_substitute env fuel seen hqueue
    · obtain ⟨hdirect, happlied⟩ := h.directSupertypes_substitute ht env
      obtain ⟨hwalk, hfound⟩ := h.closure_substitute env fuel (t.erased :: seen)
        (List.forall_mem_append.mpr ⟨hqueue, happlied⟩)
      rw [hdirect, ← List.map_append, hwalk]
      exact ⟨rfl, List.forall_mem_cons.mpr ⟨ht, hfound⟩⟩

theorem WellApplied.supertypes_substitute (h : c.WellApplied) (ht : c.isApplied t = true)
    (env : Bindings) : c.supertypes (t.substitute env) = (c.supertypes t).map (·.substitute env) :=
  (h.closure_substitute env c.visits [] (List.forall_mem_singleton.mpr ht)).1

theorem WellApplied.isApplied_of_mem (h : c.WellApplied) (ht : c.isApplied t = true) :
    ∀ a ∈ c.supertypes t, c.isApplied a = true :=
  (h.closure_substitute .empty c.visits [] (List.forall_mem_singleton.mpr ht)).2

theorem WellApplied.asSupertype?_substitute (h : c.WellApplied)
    (ht : c.isApplied t = true) (env : Bindings) (name : String) :
    c.asSupertype? (t.substitute env) name = (c.asSupertype? t name).map (·.substitute env) := by
  rw [asSupertype?, h.supertypes_substitute ht, List.find?_map, asSupertype?]
  refine congrArg _ (List.find?_congr fun a ha => ?_)
  rw [Function.comp, rawName?_substitute (h.isApplied_of_mem ht a ha)]

theorem WellApplied.isMap_substitute (h : c.WellApplied) (ht : c.isApplied t = true)
    (env : Bindings) : c.isMap (t.substitute env) = c.isMap t := by
  simp only [isMap, isSubtype, h.asSupertype?_substitute ht, Option.isSome_map,
    rawName?_substitute ht]

/-- The views of an applied type, its items and its values are those of before with the variables
replaced. -/
theorem views_commute_with_substitution (h : c.WellApplied)
    (hcollection : c.class? collectionName = builtin.class? collectionName)
    (ht : c.isApplied t = true) (env : Bindings) :
    c.supertypes (t.substitute env) = (c.supertypes t).map (·.substitute env) ∧
    (∀ name, c.asSupertype? (t.substitute env) name =
      (c.asSupertype? t name).map (·.substitute env)) ∧
    c.arrayItem? (t.substitute env) = (c.arrayItem? t).map (·.substitute env) ∧
    c.mapValue? (t.substitute env) = (c.mapValue? t).map (·.substitute env) := by
  have hview {name : String} {view : TypeExpr} (hv : c.asSupertype? t name = some view) :
      c.isApplied view = true ∧ view = .named name view.args := by
    have hname : view.rawName? = some name := by simpa using List.find?_some hv
    exact ⟨h.isApplied_of_mem ht view (List.mem_of_find?_eq_some hv), eq_named_of_rawName? hname⟩
  refine ⟨h.supertypes_substitute ht env, h.asSupertype?_substitute ht env, ?_, ?_⟩
  · have hitem (s : TypeExpr) (hs : c.isApplied s = true) : c.arrayItem? s =
        (c.asSupertype? s collectionName).map
          fun view => view.args.head?.getD c.collectionItemVariable := by
      cases s with
      | named => rfl
      | _ => cases hs
    rw [hitem _ ht, hitem _ (isApplied_substitute ht), h.asSupertype?_substitute ht]
    cases hv : c.asSupertype? t collectionName with
    | none => rfl
    | some view =>
      obtain ⟨happlied, hnamed⟩ := hview hv
      -- The collection has its one argument, so its variable is not asked for.
      obtain ⟨item, hitem⟩ : ∃ item, view.args = [item] := by
        have hbuiltin : (builtin.class? collectionName).any (·.typeParams.length == 1) = true := by
          decide +kernel
        obtain ⟨decl, hdecl, hone⟩ := (Option.any_eq_true _ _).mp hbuiltin
        rw [hnamed, isApplied, hcollection, hdecl] at happlied
        refine List.length_eq_one_iff.mp ?_
        rw [eq_of_beq happlied, eq_of_beq hone]
      simp only [Option.map_some, args_substitute happlied, hitem]
      rfl
  · rw [mapValue?, mapValue?, h.isMap_substitute ht, h.asSupertype?_substitute ht]
    split
    · cases hv : c.asSupertype? t mapName with
      | none => rfl
      | some view =>
        simp only [Option.map_some, Option.bind_some, args_substitute (hview hv).1,
          List.getElem?_map]
    · rfl

/-- A class of rows, whose parameter is called as that of collections is. -/
def grids : Catalog :=
  (builtin.addClass
    { name := "Grid", typeParams := ["E"],
      superclass := some (.named "ArrayList" [.named "List" [.var "E"]]) }).addClass
    { name := "Color", kind := .enumeration }

theorem views_commute_with_substitution_grid :
    let grid : TypeExpr := .named "Grid" [.named "Map" [.var "T", .var "E"]]
    let env : Bindings := .ofList [("T", .var "E"), ("E", .raw "Color")]
    grids.WellApplied ∧ grids.class? collectionName = builtin.class? collectionName ∧
      grids.isApplied grid = true ∧
      grids.arrayItem? grid = some (.named "List" [.named "Map" [.var "T", .var "E"]]) ∧
      grids.arrayItem? (grid.substitute env) =
        some (.named "List" [.named "Map" [.var "E", .raw "Color"]]) := by
  intro grid env
  have hclasses : grids.WellApplied := by decide +kernel
  have hcollection : grids.class? collectionName = builtin.class? collectionName := by
    decide +kernel
  have hgrid : grids.isApplied grid = true := by decide +kernel
  have hitem :
      grids.arrayItem? grid = some (.named "List" [.named "Map" [.var "T", .var "E"]]) := by
    decide +kernel
  obtain ⟨-, -, harray, -⟩ := views_commute_with_substitution hclasses hcollection hgrid env
  refine ⟨hclasses, hcollection, hgrid, hitem, ?_⟩
  rw [harray, hitem]
  decide +kernel

end Catalog

end ServiceApi
