import Mathlib.Data.List.Nodup
import ServiceApi.Document.ResourceTree
import ServiceApi.Proofs.Json.Fields

/-! # Methods in nested resources

A tree of resources is written as nested objects, from which its methods can be read again, each
with the names of the resources that lead to it and its own. A method with a path of its own comes
to those that are there. -/

namespace ServiceApi

/-! ## Reading an object -/

namespace Json

mutual

/-- The methods in a resource, each with the path that leads to it. -/
def leaves : Json → List (List String × Json)
  | .obj fields => fieldLeaves fields
  | _ => []

def fieldLeaves : List (String × Json) → List (List String × Json)
  | [] => []
  | (name, v) :: rest => leavesUnder name v ++ fieldLeaves rest

def leavesUnder : String → Json → List (List String × Json)
  | "methods", .obj methods => methods.map fun e => ([e.1], e.2)
  | "resources", .obj resources => leavesBelow resources
  | _, _ => []

def leavesBelow : List (String × Json) → List (List String × Json)
  | [] => []
  | (name, resource) :: rest =>
      resource.leaves.map (fun e => (name :: e.1, e.2)) ++ leavesBelow rest

end

@[simp] theorem fieldLeaves_append (fields fields' : List (String × Json)) :
    fieldLeaves (fields ++ fields') = fieldLeaves fields ++ fieldLeaves fields' := by
  induction fields with
  | nil => simp [fieldLeaves]
  | cons e fields ih => rw [List.cons_append, fieldLeaves, ih, fieldLeaves, List.append_assoc]

/-- The fields of a resource. -/
def resourceNames : List String := ["methods", "resources"]

theorem mem_resourceNames {name : String} :
    name ∈ resourceNames ↔ name = "methods" ∨ name = "resources" := by
  simp [resourceNames]

theorem Avoids.fieldLeaves {fields : List (String × Json)} (h : Avoids resourceNames fields) :
    fieldLeaves fields = [] := by
  induction fields with
  | nil => rw [Json.fieldLeaves]
  | cons e fields ih =>
    obtain ⟨hname, hrest⟩ := (avoids_cons e.1 e.2).mp h
    rw [mem_resourceNames, not_or] at hname
    rw [Json.fieldLeaves, ih hrest, List.append_nil, leavesUnder]
    · exact fun _ heq => absurd heq hname.1
    · exact fun _ heq => absurd heq hname.2

end Json

/-! ## Growing a tree -/

namespace ResourceTree

mutual

def leaves : ResourceTree → List (List String × Json)
  | node methods resources => methods.map (fun e => ([e.1], e.2)) ++ leavesBelow resources

def leavesBelow : List (String × ResourceTree) → List (List String × Json)
  | [] => []
  | (name, t) :: rest => t.leaves.map (fun e => (name :: e.1, e.2)) ++ leavesBelow rest

end

mutual

/-- The methods that are written are those of the tree. -/
theorem leaves_fields : ∀ t : ResourceTree, (Json.obj t.fields).leaves = t.leaves
  | node methods resources => by
    have hmethods : Json.fieldLeaves (if methods.isEmpty then [] else [("methods", .obj methods)]) =
        methods.map fun e => ([e.1], e.2) := by
      cases methods <;> simp [Json.fieldLeaves, Json.leavesUnder]
    have hresources : Json.fieldLeaves
        (if resources.isEmpty then [] else [("resources", .obj (resourceFields resources))]) =
        leavesBelow resources := by
      rw [← leavesBelow_resourceFields resources]
      cases resources <;> simp [Json.fieldLeaves, Json.leavesUnder,
        Json.leavesBelow, resourceFields]
    rw [fields, leaves, Json.leaves, Json.fieldLeaves_append, hmethods, hresources]

theorem leavesBelow_resourceFields : ∀ ts : List (String × ResourceTree),
    Json.leavesBelow (resourceFields ts) = leavesBelow ts
  | [] => by rw [resourceFields, Json.leavesBelow, leavesBelow]
  | (name, t) :: rest => by
    rw [resourceFields, Json.leavesBelow, leavesBelow, leaves_fields t,
      leavesBelow_resourceFields rest]

end

theorem leavesBelow_append (ts ts' : List (String × ResourceTree)) :
    leavesBelow (ts ++ ts') = leavesBelow ts ++ leavesBelow ts' := by
  induction ts with
  | nil => rw [List.nil_append, leavesBelow, List.nil_append]
  | cons e ts ih => rw [List.cons_append, leavesBelow, ih, leavesBelow, List.append_assoc]

theorem mem_leavesBelow {e : List String × Json} {ts : List (String × ResourceTree)} :
    e ∈ leavesBelow ts ↔ ∃ r ∈ ts, ∃ l ∈ r.2.leaves, e = (r.1 :: l.1, l.2) := by
  induction ts with
  | nil => simp [leavesBelow]
  | cons r ts ih => simp [leavesBelow, ih, eq_comm]

theorem leaves_empty : empty.leaves = [] := by
  rw [empty, leaves, leavesBelow]
  rfl

/-- The names within each resource differ, and resources are in ascending order. -/
inductive Ordered : ResourceTree → Prop
  | node {methods : List (String × Json)} {resources : List (String × ResourceTree)} :
      (methods.map Prod.fst).Nodup → resources.Pairwise (·.1 < ·.1) →
      (∀ r ∈ resources, Ordered r.2) → Ordered (node methods resources)

theorem ordered_empty : Ordered empty := .node List.nodup_nil List.Pairwise.nil (by simp)

section putSorted

variable {α : Type} {k : String} {v : α} {es : List (String × α)}

theorem mem_putSorted {e : String × α} (h : e ∈ putSorted k v es) : e = (k, v) ∨ e ∈ es := by
  induction es with
  | nil => exact Or.inl (List.mem_singleton.mp h)
  | cons x es ih =>
    rw [putSorted] at h
    split at h
    · exact List.mem_cons.mp h
    · split at h
      · exact (List.mem_cons.mp h).imp_right (List.mem_cons_of_mem x)
      · rcases List.mem_cons.mp h with rfl | h
        · exact Or.inr List.mem_cons_self
        · exact (ih h).imp_right (List.mem_cons_of_mem x)

theorem pairwise_putSorted (h : es.Pairwise (·.1 < ·.1)) :
    (putSorted k v es).Pairwise (·.1 < ·.1) := by
  induction es with
  | nil => exact List.pairwise_singleton _ _
  | cons x es ih =>
    have hx := List.pairwise_cons.mp h
    rw [putSorted]
    split
    · rename_i hlt
      exact List.pairwise_cons.mpr ⟨fun e he => (List.mem_cons.mp he).elim (fun he => he ▸ hlt)
        fun he => String.lt_trans hlt (hx.1 e he), h⟩
    · split
      · rename_i heq
        subst heq
        exact List.pairwise_cons.mpr ⟨hx.1, hx.2⟩
      · rename_i hlt hne
        refine List.pairwise_cons.mpr ⟨fun e he => ?_, ih hx.2⟩
        rcases mem_putSorted he with rfl | he
        · by_contra h
          exact hne (String.le_antisymm (String.not_lt.mp h) (String.not_lt.mp hlt))
        · exact hx.1 e he

/-- An entry that is there is replaced where it stands, and a new one comes between others. -/
theorem putSorted_split (h : es.Pairwise (·.1 < ·.1)) : ∃ before after,
    (∀ v, putSorted k v es = before ++ (k, v) :: after) ∧
      es = before ++ (es.lookup k).elim [] (fun old => [(k, old)]) ++ after := by
  induction es with
  | nil => exact ⟨[], [], fun v => rfl, rfl⟩
  | cons x es ih =>
    obtain ⟨k', v'⟩ := x
    have hx := List.pairwise_cons.mp h
    by_cases hlt : k < k'
    · have hnone : ((k', v') :: es).lookup k = none := by
        rw [Entries.lookup_eq_none_iff, List.map_cons, List.mem_cons, not_or]
        refine ⟨fun heq => String.lt_irrefl k (heq ▸ hlt), fun hmem => ?_⟩
        obtain ⟨e, he, heq⟩ := List.mem_map.mp hmem
        exact String.lt_irrefl k (String.lt_trans hlt (heq ▸ hx.1 e he))
      exact ⟨[], (k', v') :: es, fun v => by rw [putSorted, if_pos hlt, List.nil_append],
        by rw [hnone]; rfl⟩
    · by_cases heq : k = k'
      · subst heq
        refine ⟨[], es, fun v => by rw [putSorted, if_neg hlt, if_pos rfl, List.nil_append], ?_⟩
        rw [List.lookup_cons_self]
        rfl
      · obtain ⟨before, after, hput, hes⟩ := ih hx.2
        refine ⟨(k', v') :: before, after, fun v => ?_, ?_⟩
        · rw [putSorted, if_neg hlt, if_neg heq, hput v, List.cons_append]
        · rw [List.lookup_cons, beq_false_of_ne heq, List.cons_append, List.cons_append, ← hes]

end putSorted

variable {leaf : String} {method : Json} {t : ResourceTree}

theorem ordered_lookup {name : String} {ts : List (String × ResourceTree)}
    (h : ∀ r ∈ ts, Ordered r.2) : Ordered ((ts.lookup name).getD empty) := by
  cases hl : ts.lookup name with
  | none => exact ordered_empty
  | some t => exact h _ (Entries.mem_of_lookup hl)

theorem Ordered.insert : ∀ {path : List String} {t : ResourceTree}, Ordered t →
    Ordered (t.insert leaf method path)
  | [], _, .node hmethods hresources hall => by
    rw [ResourceTree.insert]
    exact .node (Entries.nodup_put hmethods) hresources hall
  | r :: path, _, .node hmethods hresources hall => by
    rw [ResourceTree.insert]
    refine .node hmethods (pairwise_putSorted hresources) fun e he => ?_
    rcases mem_putSorted he with rfl | he
    · exact (ordered_lookup hall).insert
    · exact hall e he

/-- A method with a new path comes to the methods of a tree, and changes nothing else. -/
theorem leaves_insert : ∀ {path : List String} {t : ResourceTree}, Ordered t →
    path ++ [leaf] ∉ t.leaves.map Prod.fst →
    (t.insert leaf method path).leaves.Perm ((path ++ [leaf], method) :: t.leaves)
  | [], node methods resources, h, hnew => by
    have hfresh : leaf ∉ methods.map Prod.fst := by
      intro hmem
      obtain ⟨e, he, rfl⟩ := List.mem_map.mp hmem
      refine hnew (List.mem_map.mpr ⟨([e.1], e.2), ?_, rfl⟩)
      rw [leaves]
      exact List.mem_append_left _ (List.mem_map_of_mem he)
    have hput : Json.setField leaf method methods = methods ++ [(leaf, method)] := by
      simpa [Json.setField, Entries.put] using Entries.put_append hfresh (v := method) []
    rw [ResourceTree.insert, leaves, leaves, hput, List.map_append, List.append_assoc]
    exact List.perm_middle
  | r :: path, node methods resources, .node hmethods hresources hall, hnew => by
    obtain ⟨before, after, hput, hsplit⟩ := putSorted_split (k := r) hresources
    have hbelow : leavesBelow resources = leavesBelow before ++
        (((resources.lookup r).getD empty).leaves.map (fun e => (r :: e.1, e.2)) ++
          leavesBelow after) := by
      have h := congrArg leavesBelow hsplit
      rw [leavesBelow_append, leavesBelow_append, List.append_assoc] at h
      rw [h]
      cases resources.lookup r <;> simp [leavesBelow, leaves_empty]
    have hfresh : path ++ [leaf] ∉ ((resources.lookup r).getD empty).leaves.map Prod.fst := by
      intro hmem
      obtain ⟨e, he, heq⟩ := List.mem_map.mp hmem
      refine hnew (List.mem_map.mpr ⟨(r :: e.1, e.2), ?_, congrArg (r :: ·) heq⟩)
      rw [leaves, hbelow]
      exact List.mem_append_right _ <| List.mem_append_right _ <| List.mem_append_left _ <|
        List.mem_map_of_mem he
    have hgrown := leaves_insert (ordered_lookup hall) hfresh
    rw [ResourceTree.insert, leaves, leaves, hput, leavesBelow_append, leavesBelow, hbelow]
    refine ((((hgrown.map _).append_right _).append_left _).append_left _).trans ?_
    exact (List.perm_middle.append_left _).trans List.perm_middle

theorem dropLast_append_leaf {pieces : List String} (h : pieces ≠ []) :
    pieces.dropLast ++ [pieces.getLast?.getD ""] = pieces := by
  rw [List.getLast?_eq_some_getLast h, Option.getD_some, List.dropLast_concat_getLast h]

theorem leaves_insertAt {pieces : List String} (ht : Ordered t) (h : pieces ≠ [])
    (hnew : pieces ∉ t.leaves.map Prod.fst) :
    Ordered (t.insertAt pieces method) ∧
      (t.insertAt pieces method).leaves.Perm ((pieces, method) :: t.leaves) := by
  rw [insertAt]
  refine ⟨ht.insert, ?_⟩
  rw [← dropLast_append_leaf h] at hnew
  have hperm : (t.insert _ method _).leaves.Perm _ := leaves_insert ht hnew
  rwa [dropLast_append_leaf h] at hperm

/-! ## Finding a method -/

/-- Where the method of a path stands in the objects that a tree is written as. -/
def location : List String → List String
  | [] => []
  | [leaf] => ["methods", leaf]
  | r :: path => "resources" :: r :: location path

theorem ne_nil_of_mem_leaves {e : List String × Json} :
    ∀ {t : ResourceTree}, e ∈ t.leaves → e.1 ≠ []
  | node methods resources, h => by
    rw [leaves] at h
    rcases List.mem_append.mp h with h | h
    · obtain ⟨e, -, rfl⟩ := List.mem_map.mp h
      exact List.cons_ne_nil _ _
    · obtain ⟨r, -, l, -, rfl⟩ := mem_leavesBelow.mp h
      exact List.cons_ne_nil _ _

theorem lookup_resourceFields {name : String} {t : ResourceTree} {ts : List (String × ResourceTree)}
    (h : ts.lookup name = some t) : (resourceFields ts).lookup name = some (.obj t.fields) := by
  induction ts with
  | nil => cases h
  | cons e ts ih =>
    rw [resourceFields]
    by_cases hname : name = e.1
    · subst hname
      rw [List.lookup_cons_self] at h ⊢
      cases h
      rfl
    · rw [List.lookup_cons, beq_false_of_ne hname] at h ⊢
      exact ih h

theorem lookup_methods {methods : List (String × Json)} {resources : List (String × ResourceTree)}
    (h : methods ≠ []) :
    (node methods resources).fields.lookup "methods" = some (.obj methods) := by
  rw [fields, if_neg (by simpa using h)]
  rfl

theorem lookup_resources {methods : List (String × Json)} {resources : List (String × ResourceTree)}
    (h : resources ≠ []) :
    (node methods resources).fields.lookup "resources" =
      some (.obj (resourceFields resources)) := by
  cases resources with
  | nil => exact absurd rfl h
  | cons r resources => cases methods <;> rfl

/-- Every method of a tree stands where its path says. -/
theorem Ordered.get?_location {t : ResourceTree} (h : Ordered t) {q : List String} {v : Json}
    (hq : (q, v) ∈ t.leaves) : (Json.obj t.fields).get? (location q) = some v := by
  induction h generalizing q v with
  | @node methods resources hmethods hresources hall ih =>
    rw [leaves] at hq
    rcases List.mem_append.mp hq with hq | hq
    · obtain ⟨e, he, heq⟩ := List.mem_map.mp hq
      cases heq
      rw [location, Json.get?_obj_cons (lookup_methods (List.ne_nil_of_mem he)),
        Json.get?_obj_cons (Entries.lookup_of_mem hmethods he), Json.get?]
    · obtain ⟨r, hr, l, hl, heq⟩ := mem_leavesBelow.mp hq
      cases heq
      have hnodup : (resources.map Prod.fst).Nodup :=
        List.pairwise_map.mpr (hresources.imp String.ne_of_lt)
      rw [location, Json.get?_obj_cons (lookup_resources (List.ne_nil_of_mem hr)),
        Json.get?_obj_cons (lookup_resourceFields (Entries.lookup_of_mem hnodup hr))]
      · exact ih r hr hl
      · exact ne_nil_of_mem_leaves hl

theorem location_eq_cons : ∀ {q : List String}, q ≠ [] →
    ∃ name ∈ Json.resourceNames, ∃ path, location q = name :: path
  | [], h => absurd rfl h
  | [leaf], _ => ⟨"methods", by decide, [leaf], rfl⟩
  | r :: r' :: path, _ => ⟨"resources", by decide, r :: location (r' :: path), rfl⟩

end ResourceTree

end ServiceApi
