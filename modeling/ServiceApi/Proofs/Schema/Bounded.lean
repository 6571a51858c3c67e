import ServiceApi.Proofs.Schema.Needs
import Mathlib.Data.Set.Card
import Mathlib.Order.WellFounded

/-! # Types that do not expand without end

Three things may go on for ever: ever new types that a type leads to, ever new superclasses, and
names put together from names. Whether they do is not a question of fuel, and where a type leads to
a handful of others a list of these settles it. -/

namespace ServiceApi

open Relation (ReflTransGen TransGen)

theorem not_self_of_acc {α : Type} {r : α → α → Prop} {a : α} (h : Acc r a) : ¬ r a a := by
  induction h with
  | intro a _ ih => exact fun ha => ih a ha ha

/-- What only goes up does not come back to where it was. -/
theorem not_transGen_self_of_lt {α β : Type} [Preorder β] {r : α → α → Prop} {p : α → Prop}
    (rank : α → β) (hstep : ∀ a b, p a → r a b → p b ∧ rank a < rank b) {a : α} (ha : p a) :
    ¬ TransGen r a a := by
  have hup : ∀ b, TransGen r a b → p b ∧ rank a < rank b := by
    intro b h
    induction h with
    | single hab => exact hstep _ _ ha hab
    | tail _ hbc ih =>
      obtain ⟨hc, hlt⟩ := hstep _ _ ih.1 hbc
      exact ⟨hc, ih.2.trans hlt⟩
  exact fun h => (hup a h).2.false

namespace Catalog

/-- `s` is the superclass of `t` in the view of `t`. -/
def HasSuperclass (c : Catalog) (t s : TypeExpr) : Prop := c.superclass? t = some s

/-- The name of `t` is put together from that of `u`: an argument as it stands, or the items after
their transformer. -/
inductive NamedAfter (c : Catalog) (rules : SerializationRules) : TypeExpr → TypeExpr → Prop
  | argument {t a : TypeExpr} : a ∈ t.args → NamedAfter c rules t a
  | item {t i u : TypeExpr} :
      c.arrayItem? t = some i → c.schemaType rules i = .ok u → NamedAfter c rules t u

/-- Stepping from `t` to what it is named after does not go on for ever, neither in a circle nor
along ever new types. What is met on the way need not be among the types that `t` leads to, as those
have been through their transformers. -/
def NamesEnd (c : Catalog) (rules : SerializationRules) (t : TypeExpr) : Prop :=
  ¬ ∃ path : ℕ → TypeExpr, path 0 = t ∧ ∀ n, c.NamedAfter rules (path n) (path (n + 1))

variable {c : Catalog} {rules : SerializationRules} {t u : TypeExpr}

theorem namesEnd_iff_acc : c.NamesEnd rules t ↔ Acc (fun u t => c.NamedAfter rules t u) t :=
  not_iff_comm.mp not_acc_iff_exists_descending_chain

/-- Where only so many types are met, an endless way is one that goes in a circle. -/
theorem namesEnd_iff_acyclic (hfinite : {u | ReflTransGen (c.NamedAfter rules) t u}.Finite) :
    c.NamesEnd rules t ↔
      ∀ u, ReflTransGen (c.NamedAfter rules) t u → ¬ TransGen (c.NamedAfter rules) u u := by
  constructor
  · intro h u hu hcycle
    have hacc : Acc (fun u t => c.NamedAfter rules t u) u := by
      clear hcycle
      induction hu with
      | refl => exact namesEnd_iff_acc.mp h
      | tail _ hstep ih => exact ih.inv hstep
    exact not_self_of_acc (acc_transGen_iff.mpr hacc) (Relation.transGen_swap.mpr hcycle)
  · rintro h ⟨path, hstart, hpath⟩
    have hsteps : ∀ i k, TransGen (c.NamedAfter rules) (path i) (path (i + k + 1)) := by
      intro i k
      induction k with
      | zero => exact .single (hpath i)
      | succ k ih => exact ih.tail (hpath (i + k + 1))
    have hmet : ∀ n, ReflTransGen (c.NamedAfter rules) t (path n) := by
      intro n
      induction n with
      | zero => rw [hstart]
      | succ n ih => exact ih.tail (hpath n)
    obtain ⟨i, j, hij, he⟩ := hfinite.exists_lt_map_eq_of_forall_mem hmet
    obtain ⟨k, rfl⟩ := Nat.exists_eq_add_of_lt hij
    have hcycle := hsteps i k
    rw [← he] at hcycle
    exact h _ (hmet i) hcycle

/-- What compiling the schema of `t` takes: only so many types that `t` leads to, each with only so
many superclasses, and names that come to an end. -/
structure Bounded (c : Catalog) (rules : SerializationRules) (t : TypeExpr) : Prop where
  types : {u | c.Reaches rules t u}.Finite
  superclasses : ∀ u, c.Reaches rules t u → {s | ReflTransGen c.HasSuperclass u s}.Finite
  names : ∀ u, c.Reaches rules t u → c.NamesEnd rules u

/-! ## A list that shows it -/

/-- What `t` leads to in one step, its properties being looked up with `fuel`. -/
def leadsTo (c : Catalog) (rules : SerializationRules) (fuel : Nat)
    (t : TypeExpr) : List TypeExpr :=
  let properties := ((c.properties fuel t).toOption.getD []).map (·.type)
  let resource := ((c.resourceSchema rules t).toOption.join.elim [] (·.properties)).map (·.type)
  (t.args ++ (c.arrayItem? t).toList ++ properties ++ resource).filterMap fun s =>
    (c.schemaType rules s).toOption

/-- What `t` is named after. -/
def namedFrom (c : Catalog) (rules : SerializationRules) (t : TypeExpr) : List TypeExpr :=
  t.args ++ ((c.arrayItem? t).bind fun i => (c.schemaType rules i).toOption).toList

/-- There was fuel enough for the properties of `t`. -/
def showsProperties (c : Catalog) (fuel : Nat) (t : TypeExpr) : Bool :=
  match c.properties fuel t with
  | .error .outOfFuel => false
  | _ => true

/-- The list `all` has `t` after its transformer, and with each type what it leads to, its
superclass and, further on, what it is named after. -/
def boundedBy (c : Catalog) (rules : SerializationRules) (fuel : Nat) (t : TypeExpr)
    (all : List TypeExpr) : Bool :=
  (c.schemaType rules t).toOption.toList.all (all.contains ·) && all.all fun s =>
    c.showsProperties fuel s &&
      (c.leadsTo rules fuel s ++ (c.superclass? s).toList).all (all.contains ·) &&
      (c.namedFrom rules s).all fun u => all.contains u && decide (all.idxOf s < all.idxOf u)

variable {fuel : Nat} {all : List TypeExpr}

theorem mem_leadsTo (hfuel : c.showsProperties fuel t = true) (h : c.Leads rules t u) :
    u ∈ c.leadsTo rules fuel t := by
  have hne : c.properties fuel t ≠ .error .outOfFuel := by
    intro he
    rw [showsProperties, he] at hfuel
    cases hfuel
  refine List.mem_filterMap.mpr ?_
  simp only [List.mem_append]
  cases h with
  | argument ha hu => exact ⟨_, .inl (.inl (.inl ha)), by rw [hu]; rfl⟩
  | item hi hu =>
    refine ⟨_, .inl (.inl (.inr ?_)), by rw [hu]; rfl⟩
    rw [hi]
    exact List.mem_singleton.mpr rfl
  | @property _ fuel' ps p hps hp hu =>
    have heq : c.properties fuel t = .ok ps := by
      rcases Nat.le_total fuel fuel' with hle | hle
      · exact ((c.properties_cutShort hle t).eq_of_ne hne).trans hps
      · exact ((c.properties_cutShort hle t).eq_of_ne (by rw [hps]; simp)).symm.trans hps
    refine ⟨p.type, .inl (.inr ?_), by rw [hu]; rfl⟩
    rw [heq]
    exact List.mem_map_of_mem hp
  | @resource _ r p hr hp hu =>
    refine ⟨p.type, .inr ?_, by rw [hu]; rfl⟩
    rw [hr]
    exact List.mem_map_of_mem hp

theorem mem_namedFrom (h : c.NamedAfter rules t u) : u ∈ c.namedFrom rules t := by
  rw [namedFrom, List.mem_append]
  cases h with
  | argument ha => exact .inl ha
  | item hi hu =>
    right
    rw [hi, Option.bind_some, hu]
    exact List.mem_singleton.mpr rfl

theorem mem_of_reflTransGen {α : Type} {r : α → α → Prop} {all : List α}
    (hclosed : ∀ a ∈ all, ∀ b, r a b → b ∈ all) {a b : α} (ha : a ∈ all) (h : ReflTransGen r a b) :
    b ∈ all := by
  induction h with
  | refl => exact ha
  | tail _ hstep ih => exact hclosed _ ih _ hstep

theorem finite_of_closed {α : Type} {r : α → α → Prop} {all : List α}
    (hclosed : ∀ a ∈ all, ∀ b, r a b → b ∈ all) {a : α} (ha : a ∈ all) :
    {b | ReflTransGen r a b}.Finite :=
  all.finite_toSet.subset fun _ h => mem_of_reflTransGen hclosed ha h

/-- A list that has with each type what it leads to has all that its types lead to. -/
theorem mem_of_reaches (fuel : Nat) (hshows : ∀ s ∈ all, c.showsProperties fuel s = true)
    (hleads : ∀ s ∈ all, ∀ u ∈ c.leadsTo rules fuel s, u ∈ all)
    (hroot : ∀ root ∈ (c.schemaType rules t).toOption.toList, root ∈ all)
    (h : c.Reaches rules t u) :
    u ∈ all := by
  obtain ⟨root, hr, hsteps⟩ := h
  refine mem_of_reflTransGen (fun s hs u hu => hleads s hs u (mem_leadsTo (hshows s hs) hu))
    (hroot root ?_) hsteps
  rw [hr]
  exact List.mem_singleton.mpr rfl

/-- A list that has with each type its superclass has only so many. -/
theorem finite_superclasses (h : ∀ s ∈ all, ∀ u ∈ (c.superclass? s).toList, u ∈ all)
    (ht : t ∈ all) : {s | ReflTransGen c.HasSuperclass t s}.Finite :=
  finite_of_closed (fun s hs u hu => h s hs u (Option.mem_toList.mpr hu)) ht

theorem bounded_of_boundedBy (fuel : Nat) (all : List TypeExpr)
    (h : c.boundedBy rules fuel t all = true) : c.Bounded rules t := by
  rw [boundedBy, Bool.and_eq_true, List.all_eq_true, List.all_eq_true] at h
  obtain ⟨hroot, hall⟩ := h
  simp only [Bool.and_eq_true, List.all_append, List.all_eq_true, List.contains_iff_mem,
    decide_eq_true_eq] at hroot hall
  have hreaches : ∀ u, c.Reaches rules t u → u ∈ all := fun u =>
    mem_of_reaches fuel (fun s hs => (hall s hs).1.1) (fun s hs => (hall s hs).1.2.1) hroot
  have hnames : ∀ s u, s ∈ all → c.NamedAfter rules s u → u ∈ all ∧ all.idxOf s < all.idxOf u :=
    fun s u hs hu => (hall s hs).2 u (mem_namedFrom hu)
  refine ⟨all.finite_toSet.subset hreaches,
    fun u hu => finite_superclasses (fun s hs => (hall s hs).1.2.2) (hreaches u hu), fun u hu => ?_⟩
  have hclosed : ∀ s ∈ all, ∀ u, c.NamedAfter rules s u → u ∈ all :=
    fun s hs u h => (hnames s u hs h).1
  exact (namesEnd_iff_acyclic (finite_of_closed hclosed (hreaches u hu))).mpr fun v hv =>
    -- Along the way the place in the list goes up.
    not_transGen_self_of_lt all.idxOf hnames (mem_of_reflTransGen hclosed (hreaches u hu) hv)

end Catalog

end ServiceApi
