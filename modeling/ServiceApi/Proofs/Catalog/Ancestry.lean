import Mathlib.Logic.Relation
import ServiceApi.Catalog.Ancestry
import ServiceApi.Proofs.List
import ServiceApi.Proofs.OrderedMap

/-! # What the walk through the ancestors finds

The walk never runs out of visits: a class pays for what it puts into the queue with its own
clauses, and it does so once. So it finds every ancestor, each once up to type arguments. In a
catalog where no class comes to be its own ancestor, the arguments do not matter to which classes
these are. -/

namespace ServiceApi

open TypeExpr

theorem TypeExpr.rawName?_erased (t : TypeExpr) : t.erased.rawName? = t.rawName? := by
  cases t <;> rfl

theorem TypeExpr.eq_named_of_rawName? {t : TypeExpr} {name : String} (h : t.rawName? = some name) :
    t = .named name t.args := by
  cases t <;> cases h
  rfl

/-- The clauses of a class about its supertypes: the one about a superclass, filled or not, and
those about interfaces. -/
def ClassDecl.clauses (decl : ClassDecl) : List (Option TypeExpr) :=
  decl.superclass :: decl.interfaces.map some

namespace Catalog

variable {c : Catalog} {t s : TypeExpr} {name n m : String}

theorem mem_directSupertypes {args : List TypeExpr} {decl : ClassDecl}
    (h : c.class? name = some decl) : s ∈ c.directSupertypes (.named name args) ↔
      (∃ clause, some clause ∈ decl.clauses ∧
        s = clause.substitute (c.bindings (.named name args))) ∨
        decl.superclass = none ∧ decl.kind = .enumeration ∧ s = .named enumName [.raw name] := by
  simp only [directSupertypes, h, ClassDecl.clauses]
  cases hsup : decl.superclass with
  | none => by_cases hkind : decl.kind = .enumeration <;> simp [hkind, eq_comm, or_comm]
  | some sup => simp [eq_comm]

theorem length_directSupertypes_le {decl : ClassDecl} (h : c.class? name = some decl)
    (args : List TypeExpr) :
    (c.directSupertypes (.named name args)).length ≤ decl.clauses.length := by
  simp only [directSupertypes, h, ClassDecl.clauses]
  cases decl.superclass with
  | none => dsimp only; split <;> simp
  | some sup => simp

theorem directSupertypes_eq_nil (h : c.declOf? t = none) : c.directSupertypes t = [] := by
  cases t with
  | named name args =>
    have h : c.class? name = none := h
    simp only [directSupertypes, h]
  | _ => rfl

/-! ## How long the walk takes -/

/-- What is queued, and what the classes that have not been seen may add to it. -/
def walkBudget (c : Catalog) (seen queue : List TypeExpr) : Nat :=
  queue.length +
    ((c.classes.entries.filter (TypeExpr.raw ·.1 ∉ seen)).flatMap (·.2.clauses)).length

theorem walkBudget_start (c : Catalog) (t : TypeExpr) : c.walkBudget [] [t] < c.visits := by
  have hall :
      c.classes.entries.filter (TypeExpr.raw ·.1 ∉ ([] : List TypeExpr)) = c.classes.entries :=
    List.filter_eq_self.mpr fun _ _ => decide_eq_true List.not_mem_nil
  have hsum (es : List (String × ClassDecl)) : (es.flatMap (·.2.clauses)).length =
      ((es.map Prod.snd).flatMap (·.interfaces)).length + (es.map Prod.snd).length := by
    induction es with
    | nil => rfl
    | cons e es ih =>
      have hclauses : e.2.clauses.length = e.2.interfaces.length + 1 := by simp [ClassDecl.clauses]
      simp only [List.flatMap_cons, List.map_cons, List.length_append, List.length_cons] at ih ⊢
      omega
  rw [walkBudget, hall, hsum, visits, OrderedMap.values, List.length_singleton]
  omega

/-- A type that is seen for the first time pays for all that it adds. -/
theorem walkBudget_step {seen queue : List TypeExpr} (ht : t.erased ∉ seen) :
    c.walkBudget (t.erased :: seen) (queue ++ c.directSupertypes t) <
      c.walkBudget seen (t :: queue) := by
  have hsub (e : String × ClassDecl) (he : decide (TypeExpr.raw e.1 ∉ t.erased :: seen) = true) :
      decide (TypeExpr.raw e.1 ∉ seen) = true := by simp_all
  cases hdecl : c.declOf? t with
  | none =>
    have hle :=
      ((List.monotone_filter_right c.classes.entries hsub).flatMap (·.2.clauses)).length_le
    rw [directSupertypes_eq_nil hdecl]
    simp only [walkBudget, List.append_nil, List.length_cons]
    omega
  | some decl =>
    obtain ⟨name, hname, hclass⟩ := Option.bind_eq_some_iff.mp hdecl
    rw [eq_named_of_rawName? hname] at ht hsub ⊢
    have hsum := length_flatMap_filter_add_le (·.2.clauses) hsub
      (OrderedMap.mem_entries_iff.mpr hclass) (decide_eq_true ht) (by simp [erased])
    have hdirect := length_directSupertypes_le hclass t.args
    simp only [walkBudget, List.length_append, List.length_cons] at hsum ⊢
    omega

/-- The walk through `queue` comes to an end, and has found `found`: what has been seen is passed
over, and everything else is found and adds its supertypes. -/
inductive Ends (c : Catalog) : (seen queue found : List TypeExpr) → Prop
  | done {seen : List TypeExpr} : Ends c seen [] []
  | passed {t : TypeExpr} {seen queue found : List TypeExpr} : t.erased ∈ seen →
      Ends c seen queue found → Ends c seen (t :: queue) found
  | visited {t : TypeExpr} {seen queue found : List TypeExpr} : t.erased ∉ seen →
      Ends c (t.erased :: seen) (queue ++ c.directSupertypes t) found →
        Ends c seen (t :: queue) (t :: found)

theorem ends_closure (c : Catalog) : ∀ (fuel : Nat) (seen queue : List TypeExpr),
    c.walkBudget seen queue ≤ fuel → c.Ends seen queue (c.closure fuel seen queue)
  | 0, seen, queue, h => by
    obtain rfl : queue = [] := List.length_eq_zero_iff.mp (by rw [walkBudget] at h; omega)
    exact .done
  | fuel + 1, seen, [], h => .done
  | fuel + 1, seen, t :: queue, h => by
    rw [closure]
    by_cases ht : t.erased ∈ seen
    · rw [if_pos (List.contains_iff_mem.mpr ht)]
      refine .passed ht (ends_closure c fuel seen queue ?_)
      simp only [walkBudget, List.length_cons] at h ⊢
      omega
    · rw [if_neg (by simpa using ht)]
      refine .visited ht (ends_closure c fuel (t.erased :: seen) (queue ++ c.directSupertypes t) ?_)
      have hstep : c.walkBudget (t.erased :: seen) (queue ++ c.directSupertypes t) <
        c.walkBudget seen (t :: queue) := walkBudget_step ht
      omega

theorem ends_supertypes (c : Catalog) (t : TypeExpr) : c.Ends [] [t] (c.supertypes t) :=
  ends_closure c c.visits [] [t] (Nat.le_of_lt (walkBudget_start c t))

/-! ## What is found -/

/-- What the walk makes of `queue` when `seen` has been seen: everything in the queue and above it
that is new, each once up to type arguments. -/
structure Walks (c : Catalog) (seen queue found : List TypeExpr) : Prop where
  fresh : ∀ a ∈ found, a.erased ∉ seen
  distinct : (found.map erased).Nodup
  covers : ∀ a ∈ queue, a.erased ∈ seen ∨ a.erased ∈ found.map erased
  closed : ∀ a ∈ found, ∀ b ∈ c.directSupertypes a, b.erased ∈ seen ∨ b.erased ∈ found.map erased
  above : ∀ a ∈ found, ∃ b ∈ queue, Relation.ReflTransGen (fun x y => y ∈ c.directSupertypes x) b a

theorem Ends.walks {seen queue found : List TypeExpr} (h : c.Ends seen queue found) :
    c.Walks seen queue found := by
  induction h with
  | done => exact ⟨by simp, by simp, by simp, by simp, by simp⟩
  | @passed t seen queue found ht _ hrest =>
    refine ⟨hrest.fresh, hrest.distinct, ?_, hrest.closed, fun a ha => ?_⟩
    · exact List.forall_mem_cons.mpr ⟨Or.inl ht, hrest.covers⟩
    · obtain ⟨b, hb, hab⟩ := hrest.above a ha
      exact ⟨b, List.mem_cons_of_mem t hb, hab⟩
  | @visited t seen queue found ht _ hrest =>
    -- What was new to the walk from here on, or is the type itself, was new to the whole walk.
    have hnow {a : TypeExpr} (ha : a.erased ∈ t.erased :: seen ∨ a.erased ∈ found.map erased) :
        a.erased ∈ seen ∨ a.erased ∈ (t :: found).map erased := by
      simp only [List.mem_cons, List.map_cons] at ha ⊢
      tauto
    refine ⟨List.forall_mem_cons.mpr ⟨ht, fun a ha hseen => ?_⟩, ?_, ?_, ?_, ?_⟩
    · exact hrest.fresh a ha (List.mem_cons_of_mem _ hseen)
    · refine List.nodup_cons.mpr ⟨fun hmem => ?_, hrest.distinct⟩
      obtain ⟨a, ha, hat⟩ := List.mem_map.mp hmem
      exact hrest.fresh a ha (hat ▸ List.mem_cons_self)
    · exact List.forall_mem_cons.mpr ⟨Or.inr List.mem_cons_self,
        fun a ha => hnow (hrest.covers a (List.mem_append_left _ ha))⟩
    · exact List.forall_mem_cons.mpr
        ⟨fun b hb => hnow (hrest.covers b (List.mem_append_right _ hb)),
          fun a ha b hb => hnow (hrest.closed a ha b hb)⟩
    · refine List.forall_mem_cons.mpr ⟨⟨t, List.mem_cons_self, .refl⟩, fun a ha => ?_⟩
      obtain ⟨b, hb, hab⟩ := hrest.above a ha
      rcases List.mem_append.mp hb with hb | hb
      · exact ⟨b, List.mem_cons_of_mem t hb, hab⟩
      · exact ⟨t, List.mem_cons_self, .head hb hab⟩

theorem walks_supertypes (c : Catalog) (t : TypeExpr) : c.Walks [] [t] (c.supertypes t) :=
  (ends_supertypes c t).walks

theorem self_mem_supertypes (c : Catalog) (t : TypeExpr) :
    ∃ a ∈ c.supertypes t, a.erased = t.erased := by
  have h :=
    ((walks_supertypes c t).covers t (List.mem_singleton.mpr rfl)).resolve_left List.not_mem_nil
  exact List.mem_map.mp h

theorem ancestor_of_mem {a : TypeExpr} (h : a ∈ c.supertypes t) :
    Relation.ReflTransGen (fun x y => y ∈ c.directSupertypes x) t a := by
  obtain ⟨b, hb, hba⟩ := (walks_supertypes c t).above a h
  rwa [← List.mem_singleton.mp hb]

theorem isSubtype_iff_mem :
    c.isSubtype t name = true ↔ ∃ a ∈ c.supertypes t, a.rawName? = some name := by
  simp [isSubtype, asSupertype?]

/-! ## Which classes these are -/

/-- Some type of the class `n` has one of the class `m` as its superclass or as an interface. -/
def Extends (c : Catalog) (n m : String) : Prop :=
  ∃ args, ∃ s ∈ c.directSupertypes (.named n args), s.rawName? = some m

/-- No class is an ancestor of itself. -/
def Acyclic (c : Catalog) : Prop := ∀ n, ¬ Relation.TransGen c.Extends n n

/-- A class with its own kind among its type arguments shows what any clause of it may become. -/
theorem extends_of_clause {decl : ClassDecl} {clause : TypeExpr} {args : List TypeExpr}
    (hclass : c.class? n = some decl) (hclause : some clause ∈ decl.clauses)
    (hm : (clause.substitute (c.bindings (.named n args))).rawName? = some m) :
    clause.rawName? = some m ∨ c.Extends n n := by
  cases clause with
  | named name as => exact Or.inl hm
  | var v =>
    -- Every parameter, and so `v`, may stand for the class itself.
    have hbound {as : List TypeExpr} :
        c.bindings (.named n as) = .ofList (decl.typeParams.zip as) := by
      simp only [bindings, declOf?, rawName?, Option.bind_some, hclass, TypeExpr.args]
    have hv : v ∈ decl.typeParams := by
      cases hget : (c.bindings (.named n args)).get? v with
      | none => simp [substitute, hget, rawName?] at hm
      | some x => exact (List.of_mem_zip (OrderedMap.mem_of_get?_ofList (hbound ▸ hget))).1
    let own := List.replicate decl.typeParams.length (TypeExpr.raw n)
    have hkey : v ∈ (decl.typeParams.zip own).map Prod.fst := by
      rwa [List.map_fst_zip (by simp [own])]
    obtain ⟨x, hx⟩ := OrderedMap.exists_get?_ofList hkey
    have hown : x = .raw n :=
      List.eq_of_mem_replicate (List.of_mem_zip (OrderedMap.mem_of_get?_ofList hx)).2
    refine Or.inr ⟨own, _, (mem_directSupertypes hclass).mpr (Or.inl ⟨_, hclause, rfl⟩), ?_⟩
    rw [substitute, hbound, hx, Option.getD_some, hown]
    rfl
  | _ => cases hm

/-- Which classes a class extends does not depend on the arguments of a type. -/
def Uniform (c : Catalog) : Prop := ∀ (n m : String) (args : List TypeExpr),
  c.Extends n m ↔ ∃ s ∈ c.directSupertypes (.named n args), s.rawName? = some m

/-- It is enough that every clause that comes to be a class is one as it is declared. -/
theorem uniform_of_clauses
    (h : ∀ {n m : String} {decl : ClassDecl} {clause : TypeExpr} {args : List TypeExpr},
    c.class? n = some decl → some clause ∈ decl.clauses →
    (clause.substitute (c.bindings (.named n args))).rawName? = some m → clause.rawName? = some m) :
    c.Uniform := by
  intro n m args
  refine ⟨fun ⟨args', s, hs, hm⟩ => ?_, fun hs => ⟨args, hs⟩⟩
  cases hclass : c.class? n with
  | none => simp [directSupertypes, hclass] at hs
  | some decl =>
    simp only [mem_directSupertypes hclass] at hs ⊢
    rcases hs with ⟨clause, hclause, rfl⟩ | ⟨hsup, hkind, rfl⟩
    · refine ⟨_, Or.inl ⟨clause, hclause, rfl⟩, ?_⟩
      rw [eq_named_of_rawName? (h hclass hclause hm)]
      rfl
    · exact ⟨_, Or.inr ⟨hsup, hkind, rfl⟩, hm⟩

/-- Whatever a class extends that the walk has found is found too. -/
theorem Uniform.mem_supertypes (h : c.Uniform) (hn : ∃ a ∈ c.supertypes t, a.rawName? = some n)
    (hnm : c.Extends n m) : ∃ a ∈ c.supertypes t, a.rawName? = some m := by
  obtain ⟨a, ha, hn⟩ := hn
  obtain ⟨s, hs, hm⟩ := (h n m a.args).mp hnm
  rw [← eq_named_of_rawName? hn] at hs
  have hclosed := ((walks_supertypes c t).closed a ha s hs).resolve_left List.not_mem_nil
  obtain ⟨b, hb, hbs⟩ := List.mem_map.mp hclosed
  exact ⟨b, hb, by rw [← rawName?_erased, hbs, rawName?_erased, hm]⟩

theorem Acyclic.uniform (h : c.Acyclic) : c.Uniform :=
  uniform_of_clauses fun hclass hclause hm =>
    (extends_of_clause hclass hclause hm).resolve_right fun hself => h _ (.single hself)

/-- Every class is declared after those that it extends. -/
def isInOrder (c : Catalog) : Bool :=
  c.classes.entries.all fun (name, decl) =>
    let isAfter (m : String) : Bool := c.classes.keys.idxOf m < c.classes.keys.idxOf name
    decl.clauses.all (·.all fun clause => clause.rawName?.any isAfter) &&
      (decl.kind ≠ .enumeration || isAfter enumName)

theorem acyclic_of_isInOrder (h : c.isInOrder = true) : c.Acyclic := by
  have hstep {n m : String} (hnm : c.Extends n m) :
      c.classes.keys.idxOf m < c.classes.keys.idxOf n := by
    obtain ⟨args, s, hs, hm⟩ := hnm
    cases hclass : c.class? n with
    | none => simp [directSupertypes, hclass] at hs
    | some decl =>
      have hdecl := List.all_eq_true.mp h (n, decl) (OrderedMap.mem_entries_iff.mpr hclass)
      simp only [Bool.and_eq_true, List.all_eq_true] at hdecl
      rcases (mem_directSupertypes hclass).mp hs with ⟨clause, hclause, rfl⟩ | ⟨-, hkind, rfl⟩
      · obtain ⟨k, hk, hlt⟩ := (Option.any_eq_true _ _).mp (hdecl.1 _ hclause)
        rw [eq_named_of_rawName? hk] at hm
        cases hm
        exact of_decide_eq_true hlt
      · cases hm
        simpa [hkind] using hdecl.2
  intro n hn
  have hlt {m : String} (hnm : Relation.TransGen c.Extends n m) :
      c.classes.keys.idxOf m < c.classes.keys.idxOf n := by
    induction hnm with
    | single hnm => exact hstep hnm
    | tail _ hmk ih => exact Nat.lt_trans (hstep hmk) ih
  exact Nat.lt_irrefl _ (hlt hn)

/-- The walk from a type leads to a class if and only if clauses do. -/
theorem Acyclic.isSubtype_iff (h : c.Acyclic) (args : List TypeExpr) :
    c.isSubtype (.named n args) m = true ↔ Relation.ReflTransGen c.Extends n m := by
  rw [isSubtype_iff_mem]
  constructor
  · rintro ⟨a, ha, hm⟩
    have habove := ancestor_of_mem ha
    clear ha
    induction habove generalizing m with
    | refl => cases hm; exact .refl
    | @tail x y _ hy ih =>
      cases x with
      | named k as => exact (ih rfl).tail ⟨as, y, hy, hm⟩
      | _ => cases hy
  · intro hnm
    induction hnm with
    | refl =>
      obtain ⟨a, ha, hself⟩ := self_mem_supertypes c (.named n args)
      exact ⟨a, ha, by rw [← rawName?_erased, hself]; rfl⟩
    | tail _ hkm ih => exact h.uniform.mem_supertypes ih hkm

end Catalog

end ServiceApi
