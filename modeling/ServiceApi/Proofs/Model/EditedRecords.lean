import ServiceApi.Proofs.Model.Agreement
import ServiceApi.Proofs.Model.Edits

/-! # Reading an edited record

A reader respects a form if one edit of a value of that form does not change what it makes of it. Of
a record it is enough that the reader asks for the values of known fields only: these are the same,
or one of them is edited, in whatever order the fields stand and whatever else is among them. A
parameter resolves all its other fields before it picks those that it knows, so of a field that it
does not know at least the value must be one that it can keep. -/

namespace ServiceApi.Node

variable {α β : Type} {form : Form} {n n' : Node}

/-- What a parameter can keep. -/
def IsKept (v : Node) : Prop := v.isInRange Source.json.depth = true

/-- What `f` makes of a value of the form `form` does not change under one edit. -/
def Respects (form : Form) (f : Node → Read α) : Prop :=
  ∀ n n', Near IsKept form n n' → Agree Eq (f n) (f n')

/-! ## Values -/

theorem Near.follow (h : Near IsKept form n n') : Agree (Near IsKept form) n.follow n'.follow := by
  cases h with
  | refl => exact .refl (fun _ => .refl) _
  | single h =>
    obtain ⟨fs, fs', rfl, rfl⟩ | ⟨items, items', rfl, rfl, -⟩ := h.shape
    · exact .of_returns (.pure _) (.pure _) (.single h)
    · exact .of_returns (.pure _) (.pure _) (.single h)

theorem Near.leaf {R : α → β → Prop} {f : Node → Option α} {f' : Node → Option β}
    (hf : ∀ m m', Near IsKept form m m' → Option.Rel R (f m) (f' m')) (h : Near IsKept form n n') :
    Agree R (Node.leaf f n) (Node.leaf f' n') := by
  refine h.follow.bind fun m m' hm => ?_
  generalize f m = x, f' m' = y, hf m m' hm = hxy
  cases hxy with
  | none => exact .of_refuses .failure .failure
  | some hab => exact .of_returns (.pure _) (.pure _) hab

theorem Near.isMissing? (h : Near IsKept form n n') : n.isMissing? = n'.isMissing? := by
  cases h with
  | refl => rfl
  | single h => obtain ⟨fs, fs', rfl, rfl⟩ | ⟨items, items', rfl, rfl, -⟩ := h.shape <;> rfl

theorem Near.items? (h : Near IsKept (.list form) n n') :
    Option.Rel (List.Forall₂ (Near IsKept form)) n.items? n'.items? := by
  have hsame (items : List Node) : List.Forall₂ (Near IsKept form) items items :=
    List.forall₂_same.mpr fun _ _ => .refl
  cases h with
  | refl =>
    cases n.items? with
    | none => exact .none
    | some items => exact .some (hsame items)
  | single h =>
    cases h with
    | item before after h =>
      exact .some (List.rel_append (hsame before) (.cons (.single h) (hsame after)))

namespace Respects

theorem leaf {f : Node → Option α} : Respects .value (leaf f) := by
  intro n n' h
  cases h with
  | refl => exact .rfl
  | single h => cases h

theorem optional {f : Node → Read α} (h : Respects form f) : Respects form (asOptional f) := by
  intro n n' hn
  refine hn.follow.bind fun m m' hm => ?_
  have hmissing : Agree Eq (Node.leaf Node.isMissing? m) (Node.leaf Node.isMissing? m') := by
    refine hm.leaf fun x x' hx => ?_
    rw [hx.isMissing?]
    cases x'.isMissing? with
    | none => exact .none
    | some missing => exact .some rfl
  refine hmissing.step fun missing => ?_
  cases missing with
  | true => exact .rfl
  | false => exact (h m m' hm).step fun a => .rfl

theorem list {f : Node → Read α} (h : Respects form f) : Respects (.list form) (asList f) := by
  intro n n' hn
  refine (hn.leaf fun _ _ hm => hm.items?).bind fun items items' hitems => ?_
  have hread : Agree (List.Forall₂ Eq) (items.mapM f) (items'.mapM f) :=
    .mapM (hitems.imp fun _ _ hm => h _ _ hm)
  exact hread.mono fun as as' has => by rwa [List.forall₂_eq_eq_eq] at has

end Respects

/-! ## Fields -/

/-- The values of the known fields are the same, or one edit apart. -/
def FieldsNear (known : List (String × Form)) (fs fs' : Fields) : Prop :=
  ∀ key form, known.lookup key = some form →
    Option.Rel (Near IsKept form) (fs.lookup key) (fs'.lookup key)

/-- A list field is refused with its only item. -/
theorem Refuses.list {fs : Fields} {key : String} {f : Node → Read α}
    (hkey : fs.lookup key = some (.row [n])) (h : Refuses (f n)) : Refuses (fs.list key f) := by
  have hitems : Refuses ([n].mapM f) := by
    rw [List.mapM_cons]
    exact h.bind _
  rw [Fields.list, Fields.withDefault, hkey]
  exact .of_returns (fun _ => rfl : Returns (Node.leaf Node.items? (.row [n])) [n]) hitems

namespace FieldsNear

variable {known : List (String × Form)} {fs fs' : Fields} {key : String}

theorem of_lookup (h : ∀ key, fs.lookup key = fs'.lookup key) : FieldsNear known fs fs' := by
  intro key form _
  rw [h key]
  cases fs'.lookup key with
  | none => exact .none
  | some n => exact .some .refl

theorem refl (fs : Fields) : FieldsNear known fs fs := of_lookup fun _ => rfl

/-- One field of a known name is edited in its place. -/
theorem split (before after : Fields) (hform : known.lookup key = some form)
    (h : Near IsKept form n n') :
    FieldsNear known (before ++ (key, n) :: after) (before ++ (key, n') :: after) := by
  intro name form' hform'
  rw [List.lookup_append, List.lookup_append]
  cases before.lookup name with
  | some m => exact .some .refl
  | none =>
    rw [Option.none_or, Option.none_or, List.lookup_cons, List.lookup_cons]
    cases hname : name == key with
    | false => exact refl after name form' hform'
    | true =>
      obtain rfl := beq_iff_eq.mp hname
      obtain rfl := Option.some.inj (hform.symm.trans hform')
      exact .some h

theorem required {f : Node → Read α} (h : FieldsNear known fs fs')
    (hform : known.lookup key = some form)
    (hf : Respects form f) : Agree Eq (fs.required key f) (fs'.required key f) := by
  rw [Fields.required, Fields.required]
  generalize fs.lookup key = x, fs'.lookup key = y, h key form hform = hxy
  cases hxy with
  | none => exact .rfl
  | some h => exact hf _ _ h

theorem withDefault {default : α} {f : Node → Read α} (h : FieldsNear known fs fs')
    (hform : known.lookup key = some form) (hf : Respects form f) :
    Agree Eq (fs.withDefault key default f) (fs'.withDefault key default f) := by
  rw [Fields.withDefault, Fields.withDefault]
  generalize fs.lookup key = x, fs'.lookup key = y, h key form hform = hxy
  cases hxy with
  | none => exact .rfl
  | some h => exact hf _ _ h

theorem optional {f : Node → Read α} (h : FieldsNear known fs fs')
    (hform : known.lookup key = some form)
    (hf : Respects form f) : Agree Eq (fs.optional key f) (fs'.optional key f) :=
      h.withDefault hform hf.optional

theorem list {f : Node → Read α} (h : FieldsNear known fs fs')
    (hform : known.lookup key = some (.list form))
    (hf : Respects form f) : Agree Eq (fs.list key f) (fs'.list key f) :=
      h.withDefault hform hf.list

end FieldsNear

/-! ## Picking the known fields -/

/-- A name that stands once has the same value in whatever order the fields stand. -/
theorem lookup_eq_of_perm {fs fs' : Fields} (hnodup : (fs.map Prod.fst).Nodup)
    (h : fs.Perm fs') (key : String) : fs.lookup key = fs'.lookup key := by
  have hnodup' : (fs'.map Prod.fst).Nodup := (h.map Prod.fst).nodup_iff.mp hnodup
  refine Option.ext fun v => ⟨fun hv => ?_, fun hv => ?_⟩
  · exact Entries.lookup_of_mem hnodup' (h.mem_iff.mp (Entries.mem_of_lookup hv))
  · exact Entries.lookup_of_mem hnodup (h.mem_iff.mpr (Entries.mem_of_lookup hv))

/-- The fields of one of the names. -/
abbrev Fields.only (names : List String) (fs : Fields) : Fields :=
  fs.filter fun f => names.contains f.1

namespace Agree

variable {names : List String} {fs fs' : Fields}

theorem pick {R : Fields → Fields → Prop}
    (hnodup : ((fs.only names).map Prod.fst).Nodup ↔ ((fs'.only names).map Prod.fst).Nodup)
    (hR : ((fs.only names).map Prod.fst).Nodup → R (fs.only names) (fs'.only names)) :
    Agree R (Fields.pick names fs) (Fields.pick names fs') := by
  unfold Fields.pick
  dsimp only
  by_cases h : ((fs.only names).map Prod.fst).Nodup
  · rw [if_pos h, if_pos (hnodup.mp h)]
    exact .of_returns (.pure _) (.pure _) (hR h)
  · rw [if_neg h, if_neg (hnodup.not.mp h)]
    exact .of_refuses .failure .failure

theorem pick_perm (h : (fs.only names).Perm (fs'.only names)) :
    Agree (fun os os' => ∀ key, os.lookup key = os'.lookup key)
      (Fields.pick names fs) (Fields.pick names fs') :=
  pick (h.map Prod.fst).nodup_iff fun hnodup => lookup_eq_of_perm hnodup h

/-- One of the fields that are picked is edited. -/
theorem pick_split {known : List (String × Form)} {key : String} (before after : Fields)
    (hform : known.lookup key = some form) (h : Near IsKept form n n') :
    Agree (FieldsNear known) (Fields.pick (known.map Prod.fst) (before ++ (key, n) :: after))
      (Fields.pick (known.map Prod.fst) (before ++ (key, n') :: after)) := by
  have hkey : (known.map Prod.fst).contains key = true :=
    List.contains_iff_mem.mpr (List.mem_map_of_mem (Entries.mem_of_lookup hform))
  have honly (v : Node) : Fields.only (known.map Prod.fst) (before ++ (key, v) :: after) =
      before.only (known.map Prod.fst) ++ (key, v) :: after.only (known.map Prod.fst) := by
    rw [Fields.only, List.filter_append, List.filter_cons, if_pos hkey]
  refine pick ?_ fun _ => ?_
  · rw [honly, honly, List.map_append, List.map_append]
    rfl
  · rw [honly, honly]
    exact .split _ _ hform h

end Agree

/-- A row gives its items the names of their places. -/
theorem zip_split {names : List String} {key : String} (before after : List Node)
    (hkey : names[before.length]? = some key) :
    ∃ pre post : Fields, ∀ n, names.zip (before ++ n :: after) = pre ++ (key, n) :: post := by
  obtain ⟨hlt, rfl⟩ := List.getElem?_eq_some_iff.mp hkey
  refine ⟨(names.take before.length).zip before,
    (names.drop (before.length + 1)).zip after, fun n => ?_⟩
  have hlength : (names.take before.length).length = before.length := List.length_take_of_le hlt.le
  calc names.zip (before ++ n :: after)
      = (names.take before.length ++ names.drop before.length).zip (before ++ n :: after) := by
        rw [List.take_append_drop]
    _ = (names.take before.length).zip before ++ (names.drop before.length).zip (n :: after) :=
        List.zip_append hlength
    _ = _ := by rw [List.drop_eq_getElem_cons hlt, List.zip_cons_cons]

variable {known : List (String × Form)}

/-- The known fields of a record and of an edited one. -/
theorem Near.fields (h : Near IsKept (.record false known) n n') :
    Agree (FieldsNear known) (n.fields (known.map Prod.fst)) (n'.fields (known.map Prod.fst)) := by
  cases h with
  | refl => exact .refl FieldsNear.refl _
  | single h =>
    cases h with
    | permute h => exact (Agree.pick_perm (h.filter _)).mono fun _ _ => .of_lookup
    | add hkey =>
      refine (Agree.pick_perm ?_).mono fun _ _ => .of_lookup
      rw [Fields.only, Fields.only, List.filter_cons_of_neg (by simpa using hkey)]
    | field before after hform h => exact .pick_split before after hform (.single h)
    | @place _ _ key form m m' before after hkey hform h =>
      obtain ⟨pre, post, hzip⟩ := zip_split before after hkey
      have hrow (v : Node) : (Node.row (before ++ v :: after)).fields (known.map Prod.fst) =
          if (before ++ v :: after).length ≤ (known.map Prod.fst).length then
            pure (pre ++ (key, v) :: post) else failure := by
        rw [← hzip v]
        rfl
      rw [hrow, hrow, List.length_append, List.length_append, List.length_cons, List.length_cons]
      split
      · exact .of_returns (.pure _) (.pure _) (.split pre post hform (.single h))
      · exact .of_refuses .failure .failure

/-- A record is read alike before and after an edit if its reader asks for known fields only. -/
theorem Respects.record {names : List String} {body : Fields → Read α}
    (hnames : known.map Prod.fst = names)
    (hbody : ∀ fs fs', FieldsNear known fs fs' → Agree Eq (body fs) (body fs')) :
    Respects (.record false known) fun n => n.fields names >>= body := by
  intro n n' h
  subst hnames
  exact h.fields.bind hbody

/-! ## Fields that are kept -/

theorem Decided.pick (names : List String) (fs : Fields) : Decided (Fields.pick names fs) := by
  unfold Fields.pick
  dsimp only
  split
  · exact .pure _
  · exact .failure

/-- Every value of a JSON text is either resolved or refused. -/
theorem decided_resolve (depth : Nat) : ∀ n : Node, Decided (resolve depth n) := by
  have hwith (part : Option (Node → Read Node))
      (hpart : ∀ f ∈ part, ∀ n, Decided (f n)) (n : Node) : Decided (resolveWith part n) := by
    refine (Decided.follow n).bind fun m => ?_
    cases htag : m.hasOwnTag with
    | true => exact .inl fun _ => rfl
    | false =>
      simp only [Bool.false_eq_true, if_false]
      split
      · rename_i f items _
        exact (Decided.mapM (hpart f rfl) items).bind fun _ => .pure _
      · rename_i f items _
        exact (Decided.mapM (hpart f rfl) items).bind fun _ => .pure _
      · rename_i f fs _
        exact (Decided.mapM (fun e => (hpart f rfl e.2).bind fun _ => .pure _) fs).bind
          fun _ => .pure _
      · rename_i f entries _
        refine (Decided.mapM (fun e => ?_) entries).bind fun _ => .pure _
        exact (hpart f rfl e.1).bind fun _ => (hpart f rfl e.2).bind fun _ => .pure _
      · exact .leaf _ m
  induction depth with
  | zero => exact hwith none (by simp)
  | succ depth ih => exact hwith (some (resolve depth)) (by simpa using ih)

/-- A value that is in range is resolved. -/
theorem exists_resolved {depth : Nat} {v : Node} (h : v.isInRange depth = true) :
    ∃ w, Returns (resolve depth v) w := by
  fun_induction isInRange depth v with
  | case1 depth | case2 depth | case3 depth | case4 depth => cases depth <;> exact ⟨_, fun _ => rfl⟩
  | case5 depth finite =>
    subst h
    cases depth <;> exact ⟨_, fun _ => rfl⟩
  | case6 depth items ih =>
    choose! w hw using fun v (hv : v ∈ items) => ih v (List.all_eq_true.mp h v hv)
    have hitems : Returns (items.mapM (resolve depth)) (items.map w) := .mapM_map hw
    have hrow : Returns (items.mapM (resolve depth) >>= fun ws => pure (Node.row ws))
        (.row (items.map w)) :=
      hitems.bind (.pure _)
    exact ⟨_, hrow⟩
  | case7 depth fs ih =>
    choose! w hw using fun f (hf : f ∈ fs) => ih f (List.all_eq_true.mp h f hf)
    have hfields :
        Returns (fs.mapM fun f => return (f.1, ← resolve depth f.2)) (fs.map fun f => (f.1, w f)) :=
      .mapM_map fun f hf => (hw f hf).bind (.pure _)
    have hrecord : Returns (fs.mapM (fun f => return (f.1, ← resolve depth f.2)) >>= fun ws =>
        pure (Node.record ws)) (.record (fs.map fun f => (f.1, w f))) := hfields.bind (.pure _)
    exact ⟨_, hrecord⟩
  | case8 => cases h

/-- `fs'` has the fields of `fs` in whatever order, and others, of which `P` holds. -/
def Extends (P : String × Node → Prop) (fs fs' : Fields) : Prop :=
  ∃ extra : Fields, (∀ f ∈ extra, P f) ∧ fs'.Perm (extra ++ fs)

namespace Extends

variable {P : String × Node → Prop} {names : List String} {fs fs' : Fields}

theorem of_perm (h : fs.Perm fs') : Extends P fs fs' := ⟨[], List.forall_mem_nil P, h.symm⟩

theorem filter (h : Extends P fs fs') (p : String × Node → Bool) :
    Extends P (fs.filter p) (fs'.filter p) := by
  obtain ⟨extra, hextra, hperm⟩ := h
  refine ⟨extra.filter p, fun f hf => hextra f (List.mem_of_mem_filter hf), ?_⟩
  rw [← List.filter_append]
  exact hperm.filter p

/-- Fields of other names do not matter. -/
theorem only (h : Extends P fs fs') (hP : ∀ f, P f → f.1 ∉ names) :
    (fs.only names).Perm (fs'.only names) := by
  obtain ⟨extra, hextra, hperm⟩ := h
  have hnone : extra.filter (fun f => names.contains f.1) = [] :=
    List.filter_eq_nil_iff.mpr
      fun f hf hcontains => hP f (hextra f hf) (List.contains_iff_mem.mp hcontains)
  have honly := hperm.filter fun f => names.contains f.1
  rw [List.filter_append, hnone, List.nil_append] at honly
  exact honly.symm

/-- The fields are resolved one by one. If one of them is refused, so are both lists; otherwise each
of the others has a value in both, since what was added is in range. -/
theorem resolve (h : Extends (fun f => f.1 ∉ names ∧ IsKept f.2) fs fs') :
    Agree (Extends fun f => f.1 ∉ names)
      (fs.mapM fun f => return (f.1, ← Node.resolve Source.json.depth f.2))
      (fs'.mapM fun f => return (f.1, ← Node.resolve Source.json.depth f.2)) := by
  obtain ⟨extra, hextra, hperm⟩ := h
  by_cases hall : ∀ f ∈ fs, ∃ w, Returns (Node.resolve Source.json.depth f.2) w
  · have hall' : ∀ f ∈ extra ++ fs, ∃ w, Returns (Node.resolve Source.json.depth f.2) w :=
      List.forall_mem_append.mpr ⟨fun f hf => exists_resolved (hextra f hf).2, hall⟩
    choose! w hw using hall'
    have hread (fs₀ : Fields) (hsub : fs₀ ⊆ extra ++ fs) :
        Returns (fs₀.mapM fun f => return (f.1, ← Node.resolve Source.json.depth f.2))
          (fs₀.map fun f => (f.1, w f)) :=
      .mapM_map fun f hf => (hw f (hsub hf)).bind (.pure _)
    refine .of_returns (hread fs (List.subset_append_right _ _)) (hread fs' hperm.subset) ?_
    refine ⟨extra.map fun f => (f.1, w f), List.forall_mem_map.mpr fun f hf => (hextra f hf).1, ?_⟩
    rw [← List.map_append]
    exact hperm.map _
  · push Not at hall
    obtain ⟨f, hf, hnone⟩ := hall
    have hdecided (e : String × Node) :
        Decided (do return (e.1, ← Node.resolve Source.json.depth e.2)) :=
      (decided_resolve _ e.2).bind fun _ => .pure _
    have hrefused : Refuses (do return (f.1, ← Node.resolve Source.json.depth f.2)) :=
      ((decided_resolve _ f.2).resolve_right (not_exists.mpr hnone)).bind _
    have hf' : f ∈ fs' := hperm.mem_iff.mpr (List.mem_append_right _ hf)
    exact .of_refuses (.mapM hdecided hrefused hf) (.mapM hdecided hrefused hf')

end Extends

/-- The fields of a parameter and of an edited one. -/
theorem Near.openFields {names : List String} (h : Near IsKept (.flat true names) n n') :
    Agree (Extends fun f => f.1 ∉ names ∧ IsKept f.2) (readOpenFields n) (readOpenFields n') := by
  cases h with
  | refl => exact .refl (fun _ => .of_perm (.refl _)) _
  | single h =>
    cases h with
    | permute h => exact .of_returns (.pure _) (.pure _) (.of_perm h)
    | @add _ _ fs key v hkey hv =>
      rw [List.map_map] at hkey
      refine .of_returns (.pure _) (.pure _) ⟨[(key, v)], ?_, .refl _⟩
      exact List.forall_mem_singleton.mpr ⟨by simpa using hkey, hv rfl⟩
    | field before after hform h =>
      obtain ⟨_, _, ⟨⟩⟩ := List.mem_map.mp (Entries.mem_of_lookup hform)
      cases h
    | place => exact .of_refuses (fun _ => rfl) fun _ => rfl

end ServiceApi.Node
