import Mathlib.Data.List.Basic
import Mathlib.Data.List.Flatten
import Mathlib.Data.List.Forall2
import Mathlib.Data.List.Nodup

/-! # Lists item by item

Lists whose items are related one by one, what a list gives away where some of its items go, what is
left where later items replace earlier ones or repeat them, and sorting that leaves no choice. -/

namespace ServiceApi

variable {α α' β : Type} {R : α → α → Prop}

theorem mapM_congr {ε : Type} {f g : α → Except ε β} : ∀ {as : List α},
    (∀ a ∈ as, f a = g a) → as.mapM f = as.mapM g
  | [], _ => rfl
  | a :: as, h => by
    rw [List.mapM_cons, List.mapM_cons, h a List.mem_cons_self,
      mapM_congr fun a' ha' => h a' (List.mem_cons_of_mem a ha')]

theorem mapM_flatMap {γ ε : Type} (f : α → List β) (g : β → Except ε γ) : ∀ as : List α,
    (as.flatMap f).mapM g = do return (← as.mapM fun a => (f a).mapM g).flatten
  | [] => rfl
  | a :: as => by
    rw [List.flatMap_cons, List.mapM_append, mapM_flatMap f g as, List.mapM_cons]
    simp

/-- A pass over all items fails with the first that fails. -/
theorem mapM_eq_find? {ε : Type} {f : α → Except ε β} {bad : α → Bool} {e : α → ε} {g : α → β}
    (hf : ∀ a, f a = if bad a then .error (e a) else .ok (g a)) : ∀ as : List α,
    as.mapM f = match as.find? bad with
      | some a => .error (e a)
      | none => .ok (as.map g)
  | [] => rfl
  | a :: as => by
    rw [List.mapM_cons, hf, mapM_eq_find? hf as, List.find?_cons]
    cases bad a with
    | true => rfl
    | false => cases as.find? bad <;> rfl

/-- A fold that cannot fail. -/
theorem foldlM_eq_foldl {ε : Type} {f : β → α → Except ε β} {g : β → α → β} : ∀ {as : List α},
    (∀ a ∈ as, ∀ b, f b a = .ok (g b a)) → ∀ b, as.foldlM f b = .ok (as.foldl g b)
  | [], _, _ => rfl
  | a :: as, h, b => by
    obtain ⟨ha, has⟩ := List.forall_mem_cons.mp h
    rw [List.foldlM_cons, ha, List.foldl_cons]
    exact foldlM_eq_foldl has _

/-- A fold fails where an item fails after those before it have passed. -/
theorem foldlM_eq_error_iff {ε : Type} {f : β → α → Except ε β} {e : ε} : ∀ {as : List α} {b : β},
    as.foldlM f b = .error e ↔
      ∃ before a after b', as = before ++ a :: after ∧
        before.foldlM f b = .ok b' ∧ f b' a = .error e
  | [], b => by
    refine iff_of_false nofun ?_
    rintro ⟨before, a, after, b', h, -⟩
    cases before <;> cases h
  | a :: as, b => by
    rw [List.foldlM_cons]
    constructor
    · intro h
      cases ha : f b a with
      | error e' =>
        rw [ha] at h
        cases h
        exact ⟨[], a, as, b, rfl, rfl, ha⟩
      | ok next =>
        rw [ha] at h
        obtain ⟨before, a', after, b', rfl, hbefore, ha'⟩ := foldlM_eq_error_iff.mp h
        refine ⟨a :: before, a', after, b', rfl, ?_, ha'⟩
        rw [List.foldlM_cons, ha]
        exact hbefore
    · rintro ⟨before, a', after, b', heq, hbefore, ha'⟩
      cases before with
      | nil =>
        cases heq
        cases hbefore
        rw [ha']
        rfl
      | cons a'' before =>
        cases heq
        rw [List.foldlM_cons] at hbefore
        cases ha : f b a with
        | error e' => rw [ha] at hbefore; cases hbefore
        | ok next =>
          rw [ha] at hbefore
          exact foldlM_eq_error_iff.mpr ⟨before, a', after, b', rfl, hbefore, ha'⟩

theorem mem_flatMap_of_filter {f : α → List β} {p : α → Bool} {as : List α} {b : β}
    (h : b ∈ (as.filter p).flatMap f) : b ∈ as.flatMap f := by
  obtain ⟨a, ha, hb⟩ := List.mem_flatMap.mp h
  exact List.mem_flatMap.mpr ⟨a, List.mem_of_mem_filter ha, hb⟩

theorem map_eq_of_forall₂ {f : α → β} (hf : ∀ a a', R a a' → f a = f a') {as as' : List α}
    (h : List.Forall₂ R as as') : as.map f = as'.map f := by
  rw [← List.forall₂_eq_eq_eq, List.forall₂_map_left_iff, List.forall₂_map_right_iff]
  exact h.imp hf

theorem foldl_eq_of_forall₂ {f : β → α → β} (hf : ∀ b a a', R a a' → f b a = f b a')
    {as as' : List α} (h : List.Forall₂ R as as') : ∀ b, as.foldl f b = as'.foldl f b := by
  induction h with
  | nil => exact fun _ => rfl
  | cons ha _ ih =>
    intro b
    rw [List.foldl_cons, List.foldl_cons, hf b _ _ ha, ih]

/-- Lists with one image have as many items, and each item has the image of the one at its place. -/
theorem forall₂_of_map_eq {f : α → β} {g : α' → β} {as : List α} {bs : List α'}
    (h : as.map f = bs.map g) : List.Forall₂ (fun a b => a ∈ as ∧ b ∈ bs ∧ f a = g b) as bs := by
  rw [← List.forall₂_eq_eq_eq, List.forall₂_map_left_iff, List.forall₂_map_right_iff,
    List.forall₂_iff_zip] at h
  refine List.forall₂_iff_zip.mpr ⟨h.1, fun hzip => ?_⟩
  obtain ⟨ha, hb⟩ := List.of_mem_zip hzip
  exact ⟨ha, hb, h.2 hzip⟩

theorem exists_of_forall₂ {S : α → β → Prop} {as : List α} {bs : List β}
    (h : List.Forall₂ S as bs) : ∀ b ∈ bs, ∃ a ∈ as, S a b := by
  induction h with
  | nil => exact fun _ hb => (List.not_mem_nil hb).elim
  | cons ha _ ih =>
    refine List.forall_mem_cons.mpr ⟨⟨_, List.mem_cons_self, ha⟩, fun b hb => ?_⟩
    obtain ⟨a, hmem, ha⟩ := ih b hb
    exact ⟨a, List.mem_cons_of_mem _ hmem, ha⟩

/-- The first item that passes a test is related to the first that passes its counterpart. -/
theorem find?_of_forall₂ {S : α → β → Prop} {p : α → Bool} {q : β → Bool}
    (hpq : ∀ a b, S a b → p a = q b)
    {as : List α} {bs : List β} {b : β} (h : List.Forall₂ S as bs) (hb : bs.find? q = some b) :
    ∃ a, as.find? p = some a ∧ S a b := by
  induction h with
  | nil => cases hb
  | @cons a b' as bs ha _ ih =>
    rw [List.find?_cons] at hb ⊢
    rw [hpq a b' ha]
    cases hq : q b' with
    | true =>
      rw [hq] at hb
      cases hb
      exact ⟨a, rfl, ha⟩
    | false =>
      rw [hq] at hb
      exact ih hb

/-- Items that `g` tells apart `f` tells apart as well, if `g` sees no difference where `f` sees
none. -/
theorem nodup_map_of_nodup_map {γ : Type} {f : α → β} {g : α → γ} {as : List α}
    (h : (as.map g).Nodup)
    (hfg : ∀ a ∈ as, ∀ a' ∈ as, f a = f a' → g a = g a') : (as.map f).Nodup :=
  (h.of_map g).map_on fun a ha a' ha' heq => List.inj_on_of_nodup_map h ha ha' (hfg a ha a' ha' heq)

/-- Lists that are cut at their first `a` are equal if the pieces are. -/
theorem eq_of_append_cons_eq {a : α} {as bs cs ds : List α} (has : a ∉ as) (hbs : a ∉ bs)
    (h : as ++ a :: cs = bs ++ a :: ds) : as = bs ∧ cs = ds := by
  induction as generalizing bs with
  | nil =>
    cases bs with
    | nil => exact ⟨rfl, (List.cons.inj h).2⟩
    | cons b bs => exact absurd ((List.cons.inj h).1 ▸ List.mem_cons_self) hbs
  | cons x as ih =>
    cases bs with
    | nil => exact absurd ((List.cons.inj h).1 ▸ List.mem_cons_self) has
    | cons b bs =>
      obtain ⟨rfl, htail⟩ := List.cons.inj h
      obtain ⟨rfl, hrest⟩ :=
        ih (List.not_mem_of_not_mem_cons has) (List.not_mem_of_not_mem_cons hbs) htail
      exact ⟨rfl, hrest⟩

/-- An item that is no longer there takes with it what it stood for. -/
theorem length_flatMap_filter_add_le {p q : α → Bool} (f : α → List β) {a : α} {as : List α}
    (hqp : ∀ x, q x = true → p x = true) (ha : a ∈ as) (hp : p a = true)
    (hq : q a = false) :
    ((as.filter q).flatMap f).length + (f a).length ≤ ((as.filter p).flatMap f).length := by
  obtain ⟨before, after, rfl⟩ := List.append_of_mem ha
  have hle (l : List α) : ((l.filter q).flatMap f).length ≤ ((l.filter p).flatMap f).length :=
    ((List.monotone_filter_right l hqp).flatMap f).length_le
  have hbefore := hle before
  have hafter := hle after
  rw [List.filter_append, List.filter_append, List.filter_cons_of_pos hp,
    List.filter_cons_of_neg (by simp [hq]), List.flatMap_append, List.flatMap_append,
    List.flatMap_cons, List.length_append, List.length_append, List.length_append]
  omega

/-- What is added step by step, each under a key of its own, comes to what was there. -/
theorem foldl_adds_to {σ κ ν : Type} {f : σ → α → σ} (I : σ → Prop) (entries : σ → List (κ × ν))
    (entry : α → κ × ν)
    (hstep : ∀ s a, I s → (entry a).1 ∉ (entries s).map Prod.fst →
      I (f s a) ∧ (entries (f s a)).Perm (entry a :: entries s)) :
    ∀ {as : List α} {s : σ}, I s → ((as.map entry ++ entries s).map Prod.fst).Nodup →
      I (as.foldl f s) ∧ (entries (as.foldl f s)).Perm (as.map entry ++ entries s)
  | [], s, hs, _ => ⟨hs, .refl _⟩
  | a :: as, s, hs, hnodup => by
    have hnew : (entry a).1 ∉ (entries s).map Prod.fst := by
      intro hmem
      rw [List.map_cons, List.cons_append, List.map_cons, List.nodup_cons,
        List.map_append] at hnodup
      exact hnodup.1 (List.mem_append_right _ hmem)
    obtain ⟨hs', hperm⟩ := hstep s a hs hnew
    have hmove : (as.map entry ++ entries (f s a)).Perm ((a :: as).map entry ++ entries s) :=
      (hperm.append_left _).trans List.perm_middle
    have hnodup' := (hmove.map Prod.fst).nodup_iff.mpr hnodup
    obtain ⟨hend, hall⟩ := foldl_adds_to I entries entry hstep hs' hnodup'
    exact ⟨hend, hall.trans hmove⟩

/-- If nothing was there, it is all. -/
theorem foldl_adds {σ κ ν : Type} {f : σ → α → σ} (I : σ → Prop) (entries : σ → List (κ × ν))
    (entry : α → κ × ν)
    (hstep : ∀ s a, I s → (entry a).1 ∉ (entries s).map Prod.fst →
      I (f s a) ∧ (entries (f s a)).Perm (entry a :: entries s))
    {as : List α} {s : σ} (hs : I s) (hnone : entries s = [])
    (h : (as.map fun a => (entry a).1).Nodup) :
    I (as.foldl f s) ∧ (entries (as.foldl f s)).Perm (as.map entry) := by
  have hnodup : ((as.map entry ++ entries s).map Prod.fst).Nodup := by
    rw [hnone, List.append_nil, List.map_map]
    exact h
  have hall := foldl_adds_to I entries entry hstep hs hnodup
  rwa [hnone, List.append_nil] at hall

section Lasting

variable {κ : Type} [DecidableEq κ] {key : α → κ}

/-- The items whose key no later item has. -/
def lasting (key : α → κ) : List α → List α
  | [] => []
  | a :: as => if key a ∈ as.map key then lasting key as else a :: lasting key as

theorem lasting_of_nodup : ∀ {as : List α}, (as.map key).Nodup → lasting key as = as
  | [], _ => rfl
  | a :: as, h => by
    obtain ⟨hnew, h⟩ := List.nodup_cons.mp h
    rw [lasting, if_neg hnew, lasting_of_nodup h]

theorem map_lasting (f : α' → α) : ∀ as : List α',
    (lasting (fun a => key (f a)) as).map f = lasting key (as.map f)
  | [] => rfl
  | a :: as => by
    have hkeys : (as.map f).map key = as.map fun a => key (f a) := List.map_map
    rw [lasting, List.map_cons, lasting, hkeys]
    split
    · exact map_lasting f as
    · rw [List.map_cons, map_lasting f as]

theorem mem_of_mem_lasting {a : α} : ∀ {as : List α}, a ∈ lasting key as → a ∈ as
  | [], h => h
  | b :: as, h => by
    rw [lasting] at h
    split at h
    · exact List.mem_cons_of_mem b (mem_of_mem_lasting h)
    · rcases List.mem_cons.mp h with rfl | h
      · exact List.mem_cons_self
      · exact List.mem_cons_of_mem b (mem_of_mem_lasting h)

/-- What is added step by step, in place of what was there under its key, comes to what lasts. -/
theorem foldl_replaces_to {σ ν : Type} {f : σ → α → σ} (I : σ → Prop) (entries : σ → List (κ × ν))
    (entry : α → κ × ν)
    (hstep : ∀ s a, I s →
      I (f s a) ∧ (entries (f s a)).Perm (entry a :: (entries s).filter (·.1 ≠ (entry a).1))) :
    ∀ (as : List α) {s : σ}, I s → I (as.foldl f s) ∧ (entries (as.foldl f s)).Perm
      ((lasting (fun a => (entry a).1) as).map entry ++
        (entries s).filter (·.1 ∉ as.map fun a => (entry a).1))
  | [], s, hs => ⟨hs, by simp [lasting]⟩
  | a :: as, s, hs => by
    obtain ⟨hs', hperm⟩ := hstep s a hs
    obtain ⟨hend, hall⟩ := foldl_replaces_to I entries entry hstep as hs'
    refine ⟨hend, hall.trans (((hperm.filter _).append_left _).trans ?_)⟩
    have hrest : ((entries s).filter (·.1 ≠ (entry a).1)).filter
        (·.1 ∉ as.map fun a => (entry a).1) =
        (entries s).filter (·.1 ∉ (a :: as).map fun a => (entry a).1) := by
      rw [List.filter_filter]
      refine List.filter_congr fun e _ => ?_
      rw [List.map_cons, ← Bool.decide_and, decide_eq_decide, List.mem_cons, not_or, and_comm]
    rw [List.filter_cons, hrest, lasting]
    by_cases hlater : (entry a).1 ∈ as.map fun a => (entry a).1
    · rw [if_neg (by simpa using hlater), if_pos hlater]
    · rw [if_pos (by simpa using hlater), if_neg hlater, List.map_cons]
      exact List.perm_middle

/-- If nothing was there, it is what lasts. -/
theorem foldl_replaces {σ ν : Type} {f : σ → α → σ} (I : σ → Prop) (entries : σ → List (κ × ν))
    (entry : α → κ × ν)
    (hstep : ∀ s a, I s →
      I (f s a) ∧ (entries (f s a)).Perm (entry a :: (entries s).filter (·.1 ≠ (entry a).1)))
    (as : List α) {s : σ} (hs : I s) (hnone : entries s = []) :
    I (as.foldl f s) ∧
      (entries (as.foldl f s)).Perm ((lasting (fun a => (entry a).1) as).map entry) := by
  have hall := foldl_replaces_to I entries entry hstep as hs
  rwa [hnone, List.filter_nil, List.append_nil] at hall

end Lasting

section Repeated

variable [DecidableEq α]

theorem eraseDups_filter (p : α → Bool) : ∀ as : List α, (as.filter p).eraseDups =
    as.eraseDups.filter p
  | [] => rfl
  | a :: as => by
    have hrest :
      ((as.filter (!· == a)).filter p).eraseDups = (as.filter (!· == a)).eraseDups.filter p :=
      eraseDups_filter p _
    rw [List.eraseDups_cons, List.filter_cons, List.filter_cons]
    by_cases hp : p a = true
    · rw [if_pos hp, if_pos hp, List.eraseDups_cons, List.filter_comm, hrest]
    · rw [if_neg hp, if_neg hp, ← hrest, List.filter_filter]
      congr 1
      refine List.filter_congr fun b _ => ?_
      by_cases hb : b = a
      · rw [hb, Bool.eq_false_iff.mpr hp, Bool.false_and]
      · rw [beq_false_of_ne hb, Bool.not_false, Bool.and_true]
termination_by as => as.length
decreasing_by
  exact Nat.lt_succ_of_le (List.length_filter_le _ _)

/-- What repeats an item goes, wherever it stands. -/
theorem eraseDups_cons_eq (a : α) (as : List α) :
    (a :: as).eraseDups = a :: as.eraseDups.filter (· ≠ a) := by
  rw [List.eraseDups_cons, eraseDups_filter]
  refine congrArg (a :: ·) (List.filter_congr fun b _ => ?_)
  rw [decide_not, beq_eq_decide]

/-- An item that is added at the end stays if it is new. -/
theorem eraseDups_concat (as : List α) (a : α) :
    (as ++ [a]).eraseDups = if a ∈ as.eraseDups then as.eraseDups else as.eraseDups ++ [a] := by
  rw [List.eraseDups_append, List.removeAll]
  by_cases h : a ∈ as
  · simp [h]
  · simp [h, List.eraseDups_cons]

theorem nodup_eraseDups : ∀ as : List α, as.eraseDups.Nodup
  | [] => List.nodup_nil
  | a :: as => by
    rw [eraseDups_cons_eq, List.nodup_cons]
    refine ⟨fun hmem => ?_, (nodup_eraseDups as).filter _⟩
    simpa using List.of_mem_filter hmem

end Repeated

/-- Sorting by a text that no two items share leaves no choice. -/
theorem mergeSort_eq_of_perm (f : α → String) {as as' : List α} (h : as.Perm as')
    (hf : ∀ a ∈ as, ∀ a' ∈ as, f a = f a' → a = a') :
    (as.mergeSort fun a a' => f a ≤ f a') = as'.mergeSort fun a a' => f a ≤ f a' := by
  have htrans (a b c : α) (hab : decide (f a ≤ f b) = true) (hbc : decide (f b ≤ f c) = true) :
      decide (f a ≤ f c) = true :=
    decide_eq_true (String.le_trans (of_decide_eq_true hab) (of_decide_eq_true hbc))
  have htotal (a b : α) : (decide (f a ≤ f b) || decide (f b ≤ f a)) = true := by
    simpa using String.le_total (f a) (f b)
  have hsorted := List.pairwise_mergeSort htrans htotal
  refine List.Perm.eq_of_pairwise (fun a b ha hb hab hba => ?_) (hsorted _) (hsorted _)
    (((List.mergeSort_perm _ _).trans h).trans (List.mergeSort_perm _ _).symm)
  refine hf a (List.mem_mergeSort.mp ha) b (h.mem_iff.mpr (List.mem_mergeSort.mp hb)) ?_
  exact String.le_antisymm (of_decide_eq_true hab) (of_decide_eq_true hba)

end ServiceApi
