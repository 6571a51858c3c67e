import ServiceApi.Proofs.Catalog.Chain
import ServiceApi.Proofs.OrderedMap

/-! # Which declarations the properties of a bean come from

The declarations along the superclass chain count, base class first, as far as they are visible. Of
those with one serialized name the last is published, where the first of them stood; one type that
cannot be resolved spoils all. A declaration that is not visible takes no part in this: it hides
nothing that a superclass declares. -/

namespace ServiceApi

/-- A property as the class of `owner` declares it. -/
structure DeclaredProperty where
  owner : TypeExpr
  decl : ClassDecl
  property : PropertyDecl
  deriving DecidableEq

namespace DeclaredProperty

variable (c : Catalog) (d : DeclaredProperty)

def isVisible : Bool := d.property.isVisible

def serializedName : String := d.property.serializedName

/-- The type of the property, with the type variables of its owner substituted. -/
def type : TypeExpr := d.property.type.substitute (c.bindings d.owner)

def isUnresolved : Bool := (d.type c).isUnresolved

/-- What a visible declaration asks for. -/
def published : ResolvedProperty where
  name := d.serializedName
  type := d.type c
  description := d.property.api.bind (·.description)
  required := d.property.api.bind (·.required)

/-- What is wrong with it if its type is not resolved. -/
def fault : ApiError :=
  .unsupportedType (d.decl.name ++ "." ++ d.property.name) (d.type c) (.unresolvedProperty d.owner)

theorem resolveProperty_eq :
    Catalog.resolveProperty d.owner d.decl (c.bindings d.owner) d.property =
    if d.isUnresolved c then .error (d.fault c) else .ok (d.published c) := rfl

end DeclaredProperty

namespace Catalog

variable {c : Catalog} {fuel : Nat} {t owner : TypeExpr} {chain : List TypeExpr}
  {select : DeclaredProperty → Bool}

/-- The properties that the class of `owner` declares, in their order. -/
def declaredBy (c : Catalog) (owner : TypeExpr) : List DeclaredProperty :=
  match c.declOf? owner with
  | none => []
  | some decl => decl.properties.map (⟨owner, decl, ·⟩)

/-- The properties that the classes of a chain declare, base class first. -/
def declaredAlong (c : Catalog) (chain : List TypeExpr) : List DeclaredProperty :=
  chain.reverse.flatMap c.declaredBy

def visibleAlong (c : Catalog) (chain : List TypeExpr) : List DeclaredProperty :=
  (c.declaredAlong chain).filter (·.isVisible)

/-- Of the declarations that `select` takes the last one in the most derived class that has any. -/
def lastDeclared? (c : Catalog) (chain : List TypeExpr) (select : DeclaredProperty → Bool) :
    Option DeclaredProperty :=
  chain.findSome? fun owner => (c.declaredBy owner).reverse.find? select

theorem lastDeclared?_eq_find? :
    c.lastDeclared? chain select = (c.declaredAlong chain).reverse.find? select := by
  unfold lastDeclared? declaredAlong
  rw [List.reverse_flatMap, List.reverse_reverse, List.find?_flatMap]
  rfl

theorem ownProperties_eq_mapM : c.ownProperties owner =
    ((c.declaredBy owner).filter (·.isVisible)).mapM fun d =>
      resolveProperty d.owner d.decl (c.bindings d.owner) d.property := by
  unfold ownProperties declaredBy
  cases c.declOf? owner with
  | none => rfl
  | some decl => rw [List.filter_map, List.mapM_map]; rfl

/-- One pass over all declarations that are visible, from the base class on. -/
theorem mapM_ownProperties : (do return (← chain.reverse.mapM c.ownProperties).flatten) =
    (c.visibleAlong chain).mapM fun d =>
      resolveProperty d.owner d.decl (c.bindings d.owner) d.property := by
  unfold visibleAlong declaredAlong
  rw [mapM_congr fun owner (_ : owner ∈ chain.reverse) => ownProperties_eq_mapM,
    List.filter_flatMap, mapM_flatMap]

theorem mem_visibleAlong {d : DeclaredProperty} :
    d ∈ c.visibleAlong chain ↔ d ∈ c.declaredAlong chain ∧ d.isVisible := List.mem_filter

/-- The declaration that a property of the bean is published from. -/
def source? (c : Catalog) (chain : List TypeExpr) (serializedName : String) :
    Option DeclaredProperty :=
  c.lastDeclared? chain fun d => d.isVisible && d.serializedName = serializedName

theorem source?_eq_find? (name : String) :
    c.source? chain name = (c.visibleAlong chain).reverse.find? (·.serializedName = name) := by
  unfold source? visibleAlong
  rw [lastDeclared?_eq_find?, ← List.filter_reverse, List.find?_filter]
  simp only [Bool.decide_and, Bool.decide_eq_true]

section Answered

variable (hclass : (c.declOf? t).isSome) (hchain : c.Climbs [] t chain)
  (hfuel : chain.length ≤ fuel)

include hclass hchain hfuel

/-- The first visible declaration without a resolved type is what goes wrong; else the last one of
each name is published. -/
theorem properties_eq :
    c.properties fuel t = match (c.visibleAlong chain).find? (·.isUnresolved c) with
      | some d => .error (d.fault c)
      | none => .ok (OrderedMap.ofList
          (((c.visibleAlong chain).map (·.published c)).map fun p => (p.name, p))).values := by
  have hfound : c.superclassChain fuel [] t = .ok chain :=
    superclassChain_eq_ok_iff.mpr ⟨hchain, hfuel⟩
  obtain ⟨decl, hdecl⟩ := Option.isSome_iff_exists.mp hclass
  obtain ⟨name, hname, hdecl⟩ := Option.bind_eq_some_iff.mp hdecl
  have hpass := mapM_eq_find? (DeclaredProperty.resolveProperty_eq c) (c.visibleAlong chain)
  have hmerge : c.properties fuel t =
      (do return (← chain.reverse.mapM c.ownProperties).flatten) >>= fun ps =>
        .ok (OrderedMap.ofList (ps.map fun p => (p.name, p))).values := by
    unfold properties requireClass OrderedMap.ofList
    simp only [hname, hdecl, hfound, List.foldl_map, bind_assoc]
    rfl
  rw [hmerge, mapM_ownProperties, hpass]
  cases (c.visibleAlong chain).find? (·.isUnresolved c) <;> rfl

theorem properties_eq_error_iff {e : ApiError} : c.properties fuel t = .error e ↔
    ((c.visibleAlong chain).find? (·.isUnresolved c)).map (·.fault c) = some e := by
  rw [properties_eq hclass hchain hfuel]
  cases (c.visibleAlong chain).find? (·.isUnresolved c) <;> simp

theorem properties_ok {ps : List ResolvedProperty} (h : c.properties fuel t = .ok ps) :
    ps.map (·.name) = ((c.visibleAlong chain).map (·.serializedName)).eraseDups ∧
      ∀ p, p ∈ ps ↔ (c.source? chain p.name).map (·.published c) = some p := by
  rw [properties_eq hclass hchain hfuel] at h
  split at h
  · cases h
  · cases h
    constructor
    · rw [OrderedMap.map_values_ofList_map_key, List.map_map]
      rfl
    · intro p
      rw [OrderedMap.mem_values_ofList_map_key, source?_eq_find?,
        ← List.map_reverse, List.find?_map]
      rfl

end Answered

/-- Bean properties: if along the superclass chain of a class a visible declaration is left without
a resolved type, the first of these is reported. Otherwise there is one property for each serialized
name that is declared, in the order in which the names first appear from the base class on; it is
what the last visible declaration with its name asks for, in the most derived class that has one. -/
theorem properties_publish_the_last_visible_declarations (hclass : (c.declOf? t).isSome)
    (hchain : c.Climbs [] t chain) (hfuel : chain.length ≤ fuel) :
    ((∃ location type reason, c.properties fuel t =
      .error (.unsupportedType location type reason)) ↔
        ∃ d ∈ c.declaredAlong chain, d.isVisible ∧ d.isUnresolved c) ∧
      (∀ e, c.properties fuel t = .error e →
        ((c.visibleAlong chain).find? (·.isUnresolved c)).map (·.fault c) = some e) ∧
      ((∀ d ∈ c.declaredAlong chain, d.isVisible → ¬ d.isUnresolved c) →
        ∃ ps, c.properties fuel t = .ok ps ∧
          ps.map (·.name) = ((c.visibleAlong chain).map (·.serializedName)).eraseDups ∧
          ∀ p ∈ ps, ∃ d, p = d.published c ∧
            c.lastDeclared? chain (fun d => d.isVisible && d.serializedName = p.name) =
              some d) := by
  have herror {e : ApiError} := properties_eq_error_iff (e := e) hclass hchain hfuel
  refine ⟨⟨?_, ?_⟩, fun e he => herror.mp he, ?_⟩
  · intro h
    obtain ⟨location, type, reason, h⟩ := h
    obtain ⟨d, hd, -⟩ := Option.map_eq_some_iff.mp (herror.mp h)
    obtain ⟨hmem, hvisible⟩ := mem_visibleAlong.mp (List.mem_of_find?_eq_some hd)
    have hunresolved : d.isUnresolved c = true := List.find?_some hd
    exact ⟨d, hmem, hvisible, hunresolved⟩
  · intro h
    obtain ⟨d, hmem, hvisible, hunresolved⟩ := h
    obtain ⟨first, hfirst⟩ : ∃ first,
        (c.visibleAlong chain).find? (·.isUnresolved c) = some first := by
      rw [← Option.isSome_iff_exists, List.find?_isSome]
      exact ⟨d, mem_visibleAlong.mpr ⟨hmem, hvisible⟩, hunresolved⟩
    exact ⟨_, _, _, herror.mpr (congrArg (Option.map _) hfirst)⟩
  · intro hresolved
    have hnone : (c.visibleAlong chain).find? (·.isUnresolved c) = none := by
      refine List.find?_eq_none.mpr fun d hd => ?_
      obtain ⟨hmem, hvisible⟩ := mem_visibleAlong.mp hd
      exact hresolved d hmem hvisible
    have hps := properties_eq hclass hchain hfuel
    rw [hnone] at hps
    obtain ⟨hnames, hmem⟩ := properties_ok hclass hchain hfuel hps
    refine ⟨_, hps, hnames, fun p hp => ?_⟩
    obtain ⟨d, hd, heq⟩ := Option.map_eq_some_iff.mp ((hmem p).mp hp)
    exact ⟨d, heq.symm, hd⟩

/-- A generic class, one that fills it in and declares parts of it again, and one that leaves it
open. -/
def crates : Catalog :=
  [{ name := "Crate", typeParams := ["T"], properties := [
       { name := "content", type := .var "T" },
       { name := "label", type := .raw "String" },
       { name := "secret", type := .raw "String", api := some { ignored := some true } }] },
   { name := "BookCrate", superclass := some (.named "Crate" [.raw "Long"]), properties := [
       { name := "title", type := .raw "String",
         api := some { name := some "label", required := some true } },
       { name := "weight", type := .raw "Double" }] },
   { name := "OpenCrate", superclass := some (.raw "Crate") }].foldl addClass builtin

theorem properties_publish_the_last_visible_declarations_crate :
    (crates.Climbs [] (.raw "BookCrate") [.raw "BookCrate", .named "Crate" [.raw "Long"]] ∧
      ∃ ps, crates.properties 2 (.raw "BookCrate") = .ok ps ∧
        ps.map (fun p => (p.name, p.type, p.required)) = [("content", .raw "Long", none),
          ("label", .raw "String", some true), ("weight", .raw "Double", none)]) ∧
      crates.Climbs [] (.raw "OpenCrate") [.raw "OpenCrate", .raw "Crate"] ∧
      ∃ location type reason,
        crates.properties 2 (.raw "OpenCrate") =
          .error (.unsupportedType location type reason) := by
  have hbook :=
    superclassChain_eq_ok_iff.mp
      (show crates.superclassChain 2 [] (.raw "BookCrate") = .ok _ from rfl)
  have hopen :=
    superclassChain_eq_ok_iff.mp
      (show crates.superclassChain 2 [] (.raw "OpenCrate") = .ok _ from rfl)
  refine ⟨⟨hbook.1, ?_⟩, hopen.1, ?_⟩
  · have hvalue : crates.properties 2 (.raw "BookCrate") = .ok _ := rfl
    obtain ⟨ps, hps, -⟩ :=
      (properties_publish_the_last_visible_declarations (by decide) hbook.1 hbook.2).2.2
        (by decide +kernel)
    refine ⟨ps, hps, ?_⟩
    cases hvalue.symm.trans hps
    rfl
  · refine (properties_publish_the_last_visible_declarations (by decide) hopen.1 hopen.2).1.mpr ?_
    decide +kernel

/-! ## Redeclared properties -/

/-- What the most derived declaration of a property is. -/
def mostDerivedProperty? (c : Catalog) (chain : List TypeExpr) (name : String) :
    Option DeclaredProperty :=
  c.lastDeclared? chain (·.property.name = name)

/-- Whatever is published of the property `name` comes from its most derived declaration. -/
def PublishesMostDerived (c : Catalog) (chain : List TypeExpr)
    (ps : List ResolvedProperty) (name : String) : Prop :=
  ∀ p ∈ ps, ∀ d, c.source? chain p.name = some d → d.property.name = name →
    c.mostDerivedProperty? chain name = some d

theorem lastDeclared?_eq_some_iff {d : DeclaredProperty} : c.lastDeclared? chain select = some d ↔
    select d ∧ ∃ before after, c.declaredAlong chain = before ++ d :: after ∧
      ∀ d' ∈ after, ¬ select d' := by
  rw [lastDeclared?_eq_find?, List.find?_eq_some_iff_append]
  refine and_congr_right fun _ => ?_
  constructor
  · intro h
    obtain ⟨after, before, heq, hafter⟩ := h
    refine ⟨before.reverse, after.reverse, ?_, ?_⟩
    · rw [← List.reverse_reverse (c.declaredAlong chain), heq]
      simp
    · intro d' hd'
      simpa using hafter d' (List.mem_reverse.mp hd')
  · intro h
    obtain ⟨before, after, heq, hafter⟩ := h
    refine ⟨after.reverse, before.reverse, ?_, ?_⟩
    · rw [heq]
      simp
    · intro d' hd'
      simpa using hafter d' (List.mem_reverse.mp hd')

/-- Each visible declaration of the property `name` that another one follows is followed by a
visible one with its serialized name. -/
def RedeclaresInPlace (c : Catalog) (chain : List TypeExpr) (name : String) : Prop :=
  ∀ before d after, c.declaredAlong chain = before ++ d :: after →
    d.isVisible → d.property.name = name → (∃ d' ∈ after, d'.property.name = name) →
      ∃ d' ∈ after, d'.isVisible ∧ d'.serializedName = d.serializedName

theorem source?_eq_some_iff {d : DeclaredProperty} {name : String} : c.source? chain name = some d ↔
    (d.isVisible ∧ d.serializedName = name) ∧
      ∃ before after, c.declaredAlong chain = before ++ d :: after ∧
        ∀ d' ∈ after, ¬ (d'.isVisible ∧ d'.serializedName = name) := by
  unfold source?
  rw [lastDeclared?_eq_some_iff]
  simp only [Bool.and_eq_true, decide_eq_true_eq]

theorem publishesMostDerived_iff {ps : List ResolvedProperty} {name : String}
    (hmem : ∀ p, p ∈ ps ↔ (c.source? chain p.name).map (·.published c) = some p) :
    c.PublishesMostDerived chain ps name ↔ c.RedeclaresInPlace chain name := by
  constructor
  · intro hpublishes before d after hsplit hvisible hname hfollows
    by_contra hnone
    have hsource : c.source? chain d.serializedName = some d := by
      refine source?_eq_some_iff.mpr ⟨⟨hvisible, rfl⟩, before, after, hsplit,
        fun d' hd' hsame => ?_⟩
      exact hnone ⟨d', hd', hsame⟩
    have hfield : d.published c ∈ ps := (hmem _).mpr (congrArg (Option.map _) hsource)
    have hlast : (c.declaredAlong chain).reverse.find? (·.property.name = name) = some d := by
      rw [← lastDeclared?_eq_find?]
      exact hpublishes _ hfield d hsource hname
    -- The last declaration of the property is one of those that follow, and it would have to be
    -- `d`.
    obtain ⟨last, hfind⟩ : ∃ last, after.reverse.find? (·.property.name = name) = some last := by
      rw [← Option.isSome_iff_exists, List.find?_isSome]
      simpa using hfollows
    rw [hsplit, List.reverse_append, List.reverse_cons, List.append_assoc,
      List.find?_append, hfind] at hlast
    cases hlast
    exact hnone ⟨d, List.mem_reverse.mp (List.mem_of_find?_eq_some hfind), hvisible, rfl⟩
  · intro hreplaces p hp d hsource hname
    obtain ⟨⟨hvisible, hserialized⟩, before, after, hsplit, hafter⟩ :=
      source?_eq_some_iff.mp hsource
    refine lastDeclared?_eq_some_iff.mpr ⟨decide_eq_true hname, before, after, hsplit, ?_⟩
    intro d' hd' hsame
    obtain ⟨later, hlater, hseen, heq⟩ :=
      hreplaces before d after hsplit hvisible hname ⟨d', hd', of_decide_eq_true hsame⟩
    exact hafter later hlater ⟨hseen, heq.trans hserialized⟩

theorem redeclaresInPlace_of_alike {name serializedName : String}
    (halike : ∀ d ∈ c.declaredAlong chain, d.property.name = name →
      d.isVisible ∧ d.serializedName = serializedName) : c.RedeclaresInPlace chain name := by
  intro before d after hsplit _ hname hfollows
  obtain ⟨d', hd', hname'⟩ := hfollows
  have hd : d ∈ c.declaredAlong chain := by simp [hsplit]
  have hd'' : d' ∈ c.declaredAlong chain := by simp [hsplit, hd']
  have hsame := (halike d' hd'' hname').2.trans (halike d hd hname).2.symm
  exact ⟨d', hd', (halike d' hd'' hname').1, hsame⟩

theorem exists_chain_of_properties {ps : List ResolvedProperty} (h : c.properties fuel t = .ok ps) :
    (c.declOf? t).isSome ∧ ∃ chain, c.Climbs [] t chain ∧ chain.length ≤ fuel := by
  unfold properties at h
  split at h
  · cases h
  · rename_i name hname
    obtain ⟨decl, hdecl, h⟩ := ok_of_bind h
    obtain ⟨chain, hchain, -⟩ := ok_of_bind h
    unfold requireClass at hdecl
    refine ⟨?_, chain, superclassChain_eq_ok_iff.mp hchain⟩
    unfold declOf?
    split at hdecl
    · rename_i hclass
      rw [hname, Option.bind_some, hclass]
      rfl
    · cases hdecl

/-- What is published of a property that is declared again: each property of the bean comes from the
last visible declaration with its serialized name. So the most derived declaration alone is heard
just if those before it are replaced, each by a visible one with its serialized name. This is so
where all declarations are visible and have one serialized name; one that is hidden or renamed
leaves those before it as they are. -/
theorem redeclared_properties_last_unless_replaced {ps : List ResolvedProperty}
    (h : c.properties fuel t = .ok ps) :
    ∃ chain, c.Climbs [] t chain ∧ (ps.map (·.name)).Nodup ∧
      (∀ p ∈ ps, ∃ d, c.source? chain p.name = some d ∧ p = d.published c) ∧
      (∀ name, c.PublishesMostDerived chain ps name ↔ c.RedeclaresInPlace chain name) ∧
      ∀ name serializedName, (∀ d ∈ c.declaredAlong chain, d.property.name = name →
        d.isVisible ∧ d.serializedName = serializedName) →
          c.PublishesMostDerived chain ps name := by
  obtain ⟨hclass, chain, hchain, hfuel⟩ := exists_chain_of_properties h
  obtain ⟨hnames, hmem⟩ := properties_ok hclass hchain hfuel h
  refine ⟨chain, hchain, hnames ▸ nodup_eraseDups _, fun p hp => ?_,
    fun name => publishesMostDerived_iff hmem, ?_⟩
  · obtain ⟨d, hd, heq⟩ := Option.map_eq_some_iff.mp ((hmem p).mp hp)
    exact ⟨d, hd, heq.symm⟩
  · intro name serializedName halike
    exact (publishesMostDerived_iff hmem).mpr (redeclaresInPlace_of_alike halike)

theorem redeclared_properties_last_unless_replaced_crate :
    ∃ ps chain, crates.properties 2 (.raw "BookCrate") = .ok ps ∧
      crates.Climbs [] (.raw "BookCrate") chain ∧ (ps.map (·.name)).Nodup ∧
      ∀ name, crates.PublishesMostDerived chain ps name ↔ crates.RedeclaresInPlace chain name := by
  have h : crates.properties 2 (.raw "BookCrate") = .ok _ := rfl
  obtain ⟨chain, hchain, hnodup, -, hiff, -⟩ := redeclared_properties_last_unless_replaced h
  exact ⟨_, chain, h, hchain, hnodup, hiff⟩

/-- An account, a guest who hides its secret, and a host who renames its owner. -/
def accounts : Catalog :=
  [{ name := "Account", properties := [
       { name := "owner", type := .raw "String" }, { name := "secret", type := .raw "String" }] },
   { name := "Guest", superclass := some (.raw "Account"), properties := [
       { name := "secret", type := .raw "String", api := some { ignored := some true } }] },
   { name := "Host", superclass := some (.raw "Account"), properties := [
       { name := "owner", type := .raw "String", api := some { name := some "host" } }] }].foldl
         addClass builtin

/-- What the guest hides is published all the same, and what the host renames is published under
both names. -/
theorem hidden_and_renamed_properties_are_published :
    (∃ guest, accounts.properties 2 (.raw "Guest") = .ok guest ∧
      guest.map (·.name) = ["owner", "secret"] ∧
      accounts.Climbs [] (.raw "Guest") [.raw "Guest", .raw "Account"] ∧
      (accounts.mostDerivedProperty? [.raw "Guest", .raw "Account"] "secret").map (·.isVisible) =
        some false ∧
      ¬ accounts.PublishesMostDerived [.raw "Guest", .raw "Account"] guest "secret") ∧
    ∃ host, accounts.properties 2 (.raw "Host") = .ok host ∧
      host.map (·.name) = ["owner", "secret", "host"] ∧
      accounts.Climbs [] (.raw "Host") [.raw "Host", .raw "Account"] ∧
      (accounts.mostDerivedProperty? [.raw "Host", .raw "Account"] "owner").map (·.serializedName) =
        some "host" ∧
      ¬ accounts.PublishesMostDerived [.raw "Host", .raw "Account"] host "owner" := by
  have hguest :
      accounts.superclassChain 2 [] (.raw "Guest") = .ok [.raw "Guest", .raw "Account"] := rfl
  have hhost :
      accounts.superclassChain 2 [] (.raw "Host") = .ok [.raw "Host", .raw "Account"] := rfl
  refine ⟨⟨_, rfl, rfl, (superclassChain_eq_ok_iff.mp hguest).1, rfl, ?_⟩,
    _, rfl, rfl, (superclassChain_eq_ok_iff.mp hhost).1, rfl, ?_⟩
  · intro h
    have hlast := h _ (List.mem_cons_of_mem _ List.mem_cons_self) _ rfl rfl
    exact absurd (congrArg (Option.map (·.isVisible)) hlast) (by decide)
  · intro h
    have hlast := h _ List.mem_cons_self _ rfl rfl
    exact absurd (congrArg (Option.map (·.serializedName)) hlast) (by decide)

end Catalog

end ServiceApi
