import ServiceApi.Model.Read
import ServiceApi.Model.Write
import ServiceApi.Proofs.Json.ReadBack
import ServiceApi.Proofs.TypeExpr.RoundTrip

/-! # What is read of a value that was written

A JSON value has no aliases, so a reading does not depend on how many may be followed. How texts,
integers, types, options and lists are read, and the fields of a record, is said here once; the
records of a service model are put together from it. -/

namespace ServiceApi

variable {α β : Type}

theorem Json.str_ne_null (s : String) : Json.str s ≠ .null := by simp

theorem Json.obj_ne_null (fs : List (String × Json)) : Json.obj fs ≠ .null := by simp

namespace Node

/-- Of a JSON value `r` makes `a`, and no alias is followed. -/
def Returns (r : Read α) (a : α) : Prop := ∀ left, (r.run .json).run left = some (a, left)

namespace Returns

theorem pure (a : α) : Returns (Pure.pure a) a := fun _ => rfl

theorem bind {r : Read α} {f : α → Read β} {a : α} {b : β} (hr : Returns r a)
    (hf : Returns (f a) b) : Returns (r >>= f) b := by
  intro left
  show ((r.run .json).run left).bind (fun p => ((f p.1).run .json).run p.2) = _
  rw [hr left]
  exact hf left

theorem mapM {f : α → Read β} : ∀ {as : List α} {bs : List β},
    List.Forall₂ (fun a b => Returns (f a) b) as bs → Returns (as.mapM f) bs
  | [], _, .nil => by
    rw [List.mapM_nil]
    exact .pure []
  | _ :: _, _, .cons h hs => by
    rw [List.mapM_cons]
    exact h.bind ((mapM hs).bind (.pure _))

theorem unique {r : Read α} {a b : α} (ha : Returns r a) (hb : Returns r b) : a = b :=
  congrArg Prod.fst (Option.some.inj ((ha 0).symm.trans (hb 0)))

theorem from? {r : Read α} {a : α} (h : Returns r a) : r.from? .json 0 = some a := by
  rw [Read.from?, h 0]
  rfl

end Returns

/-- What was written as `v` is read by `f` as `a`. -/
def Reads (f : Node → Read α) (v : Json) (a : α) : Prop := Returns (f v.node) a

/-! ## Values -/

theorem returns_follow (v : Json) : Returns v.node.follow v.node := by
  intro left
  cases v with
  | int n =>
    rw [Json.node]
    split <;> rfl
  | _ => rfl

theorem untagged_node (v : Json) : v.node.untagged = v.node := by
  cases v with
  | int n =>
    rw [Json.node]
    split <;> rfl
  | _ => rfl

theorem isMissing?_node {v : Json} (h : v ≠ .null) : v.node.isMissing? = some false := by
  cases v with
  | null => exact absurd rfl h
  | int n =>
    rw [Json.node]
    split <;> rfl
  | _ => rfl

theorem hasOwnTag_node (v : Json) : v.node.hasOwnTag = false := by
  cases v with
  | int n =>
    rw [Json.node]
    split <;> rfl
  | _ => rfl

namespace Reads

theorem leaf {f : Node → Option α} {v : Json} {a : α} (h : f v.node = some a) :
    Reads (leaf f) v a := by
  refine (returns_follow v).bind ?_
  rw [h]
  exact .pure a

theorem text (s : String) : Reads asText (.str s) s := .leaf rfl

theorem bool (b : Bool) : Reads asBool (.bool b) b := .leaf rfl

theorem int {lo hi n : Int} (hlo : lo ≤ n) (hhi : n ≤ hi) (h : isInt64 n = true) :
    Reads (Node.leaf (asInt? lo hi)) (.int n) n := by
  refine .leaf ?_
  rw [Json.node, if_pos h, asInt?]
  simp [hlo, hhi]

theorem variant {variants : List α} {name : α → String} {a : α}
    (h : variants.find? (name · == name a) = some a) :
    Reads (asVariant variants name) (.str (name a)) a :=
  .leaf h

/-- A type that was read of a text is read of its own. -/
theorem type {t : TypeExpr} (h : ∃ s, TypeExpr.parse s = .ok t) :
    Reads TypeExpr.read t.toJson t := by
  obtain ⟨s, hs⟩ := h
  have htext := TypeExpr.parse_text_iff.mpr (TypeExpr.parse_eq_ok_iff.mp hs).1
  refine .leaf ?_
  rw [TypeExpr.toJson, Json.node]
  simp [asText?, untagged, htext, Except.toOption]

theorem option {f : α → Json} {r : Node → Read α} {a? : Option α} (hnull : ∀ a, f a ≠ .null)
    (h : ∀ a ∈ a?, Reads r (f a) a) : Reads (asOptional r) (Json.option f a?) a? := by
  refine (returns_follow _).bind ?_
  cases a? with
  | none => exact (leaf rfl : Reads (Node.leaf isMissing?) .null true).bind (.pure none)
  | some a =>
    have hpresent : Reads (Node.leaf isMissing?) (f a) false := .leaf (isMissing?_node (hnull a))
    exact hpresent.bind ((h a rfl).bind (.pure (some a)))

theorem list {f : α → Json} {r : Node → Read α} {as : List α} (h : ∀ a ∈ as, Reads r (f a) a) :
    Reads (asList r) (Json.list f as) as := by
  have hitems : Reads (Node.leaf items?) (Json.list f as) ((as.map f).map Json.node) :=
    .leaf (congrArg some (Json.nodes_eq_map _))
  refine hitems.bind (.mapM ?_)
  rw [List.map_map, List.forall₂_map_left_iff, List.forall₂_same]
  exact h

theorem texts (as : List String) : Reads (asList asText) (Json.strs as) as := list fun s _ => text s

end Reads

/-- A value without parts keeps its type. -/
theorem returns_resolve (depth : Nat) {v : Json} (h : resolveLeaf? v.node = some v.node) :
    Returns (resolve depth v.node) v.node := by
  have hleaf : Reads (leaf resolveLeaf?) v v.node := .leaf h
  have hwith (part : Option (Node → Read Node)) : Returns (resolveWith part v.node) v.node := by
    refine (returns_follow v).bind ?_
    rw [hasOwnTag_node, untagged_node]
    generalize hn : v.node = n at h hleaf
    split
    case h_5 => exact hn ▸ hleaf
    all_goals cases h
  cases depth <;> exact hwith _

/-! ## Fields -/

variable {fs : List (String × Json)} {name : String} {v : Json} {f : Node → Read α} {a : α}

theorem lookup_fieldNodes (fs : List (String × Json)) (name : String) :
    (Json.fieldNodes fs).lookup name = (fs.lookup name).map Json.node := by
  induction fs with
  | nil => rfl
  | cons e fs ih =>
    rw [Json.fieldNodes, List.lookup_cons, List.lookup_cons, ih]
    cases name == e.1 <;> rfl

namespace Returns

/-- Of the fields of a record, those with a known name are picked. -/
theorem pick {known : List String} {picked : List (String × Json)}
    (hpicked : fs.filter (fun e => known.contains e.1) = picked) (h : (picked.map Prod.fst).Nodup) :
    Returns (Fields.pick known (Json.fieldNodes fs)) (Json.fieldNodes picked) := by
  have hnodes :
      (Json.fieldNodes fs).filter (fun f => known.contains f.1) = Json.fieldNodes picked := by
    rw [Json.fieldNodes_eq_map, Json.fieldNodes_eq_map, ← hpicked, List.filter_map]
    rfl
  have hkeys : (Json.fieldNodes picked).map Prod.fst = picked.map Prod.fst := by
    rw [Json.fieldNodes_eq_map, List.map_map]
    rfl
  unfold Fields.pick
  rw [hnodes]
  dsimp only
  rw [hkeys, if_pos h]
  exact .pure _

/-- A record that was written with the known fields, each of them once, gives them all. -/
theorem fields {known : List String} (hknown : fs.map Prod.fst = known) (h : known.Nodup) :
    Returns ((Json.obj fs).node.fields known) (Json.fieldNodes fs) := by
  have hall : fs.filter (fun e => known.contains e.1) = fs := by
    refine List.filter_eq_self.mpr fun e he => List.contains_iff_mem.mpr ?_
    exact hknown ▸ List.mem_map_of_mem he
  refine (returns_follow _).bind ?_
  rw [untagged_node, Json.node]
  exact .pick hall (hknown ▸ h)

theorem openFields : Returns (readOpenFields (Json.obj fs).node) (Json.fieldNodes fs) := by
  refine (returns_follow _).bind ?_
  rw [untagged_node, Json.node]
  exact .pure _

theorem resolveFields (depth : Nat) (h : ∀ e ∈ fs, resolveLeaf? e.2.node = some e.2.node) :
    Returns ((Json.fieldNodes fs).mapM fun (k, v) => return (k, ← resolve depth v))
      (Json.fieldNodes fs) := by
  rw [Json.fieldNodes_eq_map]
  refine .mapM ?_
  rw [List.forall₂_same, List.forall_mem_map]
  exact fun e he => (returns_resolve depth (h e he)).bind (.pure _)

theorem required (hname : fs.lookup name = some v) (h : Reads f v a) :
    Returns (Fields.required (Json.fieldNodes fs) name f) a := by
  rw [Fields.required, lookup_fieldNodes, hname]
  exact h

theorem withDefault {default : α} (hname : fs.lookup name = some v) (h : Reads f v a) :
    Returns (Fields.withDefault (Json.fieldNodes fs) name default f) a := by
  rw [Fields.withDefault, lookup_fieldNodes, hname]
  exact h

theorem optional {g : α → Json} {a? : Option α} (hname : fs.lookup name = some (Json.option g a?))
    (hnull : ∀ a, g a ≠ .null) (h : ∀ a ∈ a?, Reads f (g a) a) :
    Returns (Fields.optional (Json.fieldNodes fs) name f) a? := withDefault hname (.option hnull h)

theorem list {g : α → Json} {as : List α} (hname : fs.lookup name = some (Json.list g as))
    (h : ∀ a ∈ as, Reads f (g a) a) : Returns (Fields.list (Json.fieldNodes fs) name f) as :=
  withDefault hname (.list h)

theorem text? {a? : Option String} (hname : fs.lookup name = some (Json.text? a?)) :
    Returns (Fields.optional (Json.fieldNodes fs) name asText) a? :=
  optional hname (by simp) fun _ _ => .text _

theorem bool? {a? : Option Bool} (hname : fs.lookup name = some (Json.bool? a?)) :
    Returns (Fields.optional (Json.fieldNodes fs) name asBool) a? :=
  optional hname (by simp) fun _ _ => .bool _

theorem strs? {a? : Option (List String)} (hname : fs.lookup name = some (Json.strs? a?)) :
    Returns (Fields.optional (Json.fieldNodes fs) name readTexts) a? :=
  optional hname (by simp [Json.strs]) fun _ _ => .texts _

theorem list? {g : α → Json} {as? : Option (List α)}
    (hname : fs.lookup name = some (Json.option (Json.list g) as?))
    (h : ∀ as ∈ as?, ∀ a ∈ as, Reads f (g a) a) :
    Returns (Fields.optional (Json.fieldNodes fs) name (asList f)) as? :=
  optional hname (by simp [Json.list]) fun as has => .list (h as has)

end Returns

end Node

end ServiceApi
