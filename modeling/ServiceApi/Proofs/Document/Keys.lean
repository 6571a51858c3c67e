import ServiceApi.Document.Cache
import ServiceApi.Proofs.Catalog.Canonical
import ServiceApi.Proofs.Config.Written
import ServiceApi.Proofs.Document.Declarations

/-! # What the key of a document tells

The key holds the text of the configurations and after it the text of each catalog behind them.
These texts can be taken apart again, so the key says which configurations there are and which
catalogs. It does not say which of the catalogs is behind which configuration. -/

namespace ServiceApi

open Json

/-! ## The texts -/

/-- A list without literals. -/
structure Json.PlainList (v : Json) : Prop where
  realFree : v.RealFree
  list : v.start = .list

theorem stops_lists {vs : List Json} (h : ∀ v ∈ vs, v.PlainList) : Stops (vs.flatMap chars) := by
  cases vs with
  | nil => exact fun c hc => by cases hc
  | cons v vs =>
    have hv := h v List.mem_cons_self
    obtain ⟨c, cs, hc, hstart, -⟩ := chars_start hv.realFree
    rw [List.flatMap_cons, hc]
    refine stops_cons (Bool.eq_false_iff.mpr fun hnumeral => ?_) _
    have hnumber := hstart.symm.trans (start_of_isNumeral hnumeral)
    rw [hv.list] at hnumber
    cases hnumber

/-- Texts of lists that are written one after the other are told apart. -/
theorem lists_of_chars : ∀ {vs ws : List Json}, (∀ v ∈ vs, v.PlainList) → (∀ w ∈ ws, w.PlainList) →
    vs.flatMap chars = ws.flatMap chars → vs = ws
  | [], [], _, _, _ => rfl
  | [], w :: ws, _, hw, h => by
    obtain ⟨c, cs, hc, -⟩ := chars_start (hw w List.mem_cons_self).realFree
    rw [List.flatMap_cons, hc] at h
    cases h
  | v :: vs, [], hv, _, h => by
    obtain ⟨c, cs, hc, -⟩ := chars_start (hv v List.mem_cons_self).realFree
    rw [List.flatMap_cons, hc] at h
    cases h
  | v :: vs, w :: ws, hv, hw, h => by
    obtain ⟨hv, hvs⟩ := List.forall_mem_cons.mp hv
    obtain ⟨hw, hws⟩ := List.forall_mem_cons.mp hw
    rw [List.flatMap_cons, List.flatMap_cons] at h
    obtain ⟨hfirst, hrest⟩ :=
      delimits v hv.realFree w hw.realFree _ _ (stops_lists hvs) (stops_lists hws) h
    rw [hfirst, lists_of_chars hvs hws hrest]

/-- The lists that the key of `g` is written from. -/
def keyParts (g : List ApiConfig) : List Json :=
  Json.list ApiConfig.toJson g :: (sharedCatalogs g).map (·.catalog.toJson)

theorem toList_sourceText (g : List ApiConfig) :
    (DocumentKey.sourceText g).toList = (keyParts g).flatMap chars := by
  rw [DocumentKey.sourceText, String.toList_append, String.toList_join, keyParts, List.flatMap_cons,
    List.flatMap_map, List.flatMap_map]
  rfl

theorem plainList_keyParts (g : List ApiConfig) : ∀ v ∈ keyParts g, v.PlainList := by
  refine List.forall_mem_cons.mpr ⟨⟨(realFree_list _ _).mpr fun a _ => a.realFree_toJson, rfl⟩, ?_⟩
  exact List.forall_mem_map.mpr fun s _ => ⟨s.catalog.realFree_toJson, rfl⟩

/-- One text is written from the same configurations, apart from their catalogs, and from the same
catalogs. -/
theorem parts_of_sourceText {g g' : List ApiConfig}
    (h : DocumentKey.sourceText g = DocumentKey.sourceText g') :
    g.map ApiConfig.toJson = g'.map ApiConfig.toJson ∧
      (sharedCatalogs g).map (·.catalog.toJson) = (sharedCatalogs g').map (·.catalog.toJson) := by
  have hchars := congrArg String.toList h
  rw [toList_sourceText, toList_sourceText] at hchars
  obtain ⟨hconfigs, hcatalogs⟩ :=
    List.cons.inj (lists_of_chars (plainList_keyParts g) (plainList_keyParts g') hchars)
  exact ⟨Json.arr.inj hconfigs, hcatalogs⟩

/-! ## The catalogs behind the configurations -/

/-- Labels tell the catalogs of a group apart. -/
def Labelled (g : List ApiConfig) : Prop :=
  ∀ a ∈ g, ∀ b ∈ g, a.shared.label = b.shared.label → a.shared = b.shared

/-- Which of the catalogs of `g` is behind `a`. -/
def catalogPlace (g : List ApiConfig) (a : ApiConfig) : Nat :=
  (sharedCatalogs g).findIdx (· == a.shared)

theorem SharedCatalog.beq_iff {s t : SharedCatalog} : (s == t) = true ↔ s.label = t.label :=
  beq_iff_eq (a := s.label)

/-- The catalogs that have been seen stay, and every configuration adds its own unless one of that
label is there. -/
theorem sharedCatalogs_from : ∀ (configs : List ApiConfig) (seen : List SharedCatalog),
    let all := configs.foldl
      (fun seen a => if seen.contains a.shared then seen else seen ++ [a.shared]) seen
    (∀ s ∈ seen, s ∈ all) ∧ (∀ a ∈ configs, ∃ s ∈ all, s.label = a.shared.label) ∧
      ∀ s ∈ all, s ∈ seen ∨ ∃ a ∈ configs, s = a.shared
  | [], seen => ⟨fun s hs => hs, fun a ha => (List.not_mem_nil ha).elim, fun s hs => Or.inl hs⟩
  | a :: configs, seen => by
    intro all
    let next := if seen.contains a.shared then seen else seen ++ [a.shared]
    obtain ⟨hstay, hadd, honly⟩ := sharedCatalogs_from configs next
    have hnext : (∀ s ∈ seen, s ∈ next) ∧ (∃ s ∈ next, s.label = a.shared.label) ∧
        ∀ s ∈ next, s ∈ seen ∨ s = a.shared := by
      by_cases h : seen.contains a.shared = true
      · obtain ⟨s, hs, hlabel⟩ := List.contains_iff_exists_mem_beq.mp h
        have hkeep : next = seen := if_pos h
        rw [hkeep]
        exact ⟨fun s hs => hs, ⟨s, hs, (SharedCatalog.beq_iff.mp hlabel).symm⟩,
          fun s hs => Or.inl hs⟩
      · have hpush : next = seen ++ [a.shared] := if_neg h
        rw [hpush]
        exact ⟨fun s hs => List.mem_append_left _ hs, ⟨a.shared, by simp, rfl⟩, fun s hs => by
          simpa using hs⟩
    obtain ⟨hseen, ⟨s, hs, hlabel⟩, hfrom⟩ := hnext
    refine ⟨fun s hs => hstay s (hseen s hs), ?_, fun s hs => ?_⟩
    · exact List.forall_mem_cons.mpr ⟨⟨s, hstay s hs, hlabel⟩, hadd⟩
    · rcases honly s hs with hs | ⟨b, hb, hs⟩
      · exact (hfrom s hs).imp_right fun hs => ⟨a, List.mem_cons_self, hs⟩
      · exact Or.inr ⟨b, List.mem_cons_of_mem a hb, hs⟩

theorem catalog_at_place {g : List ApiConfig} (hg : Labelled g) {a : ApiConfig} (ha : a ∈ g) :
    (sharedCatalogs g)[catalogPlace g a]? = some a.shared := by
  obtain ⟨-, hadd, honly⟩ := sharedCatalogs_from g []
  obtain ⟨s, hs, hlabel⟩ := hadd a ha
  have hlt : catalogPlace g a < (sharedCatalogs g).length :=
    List.findIdx_lt_length.mpr ⟨s, hs, SharedCatalog.beq_iff.mpr hlabel⟩
  have hfound : ((sharedCatalogs g)[catalogPlace g a] == a.shared) = true :=
    List.findIdx_getElem (p := (· == a.shared)) (w := hlt)
  rw [List.getElem?_eq_getElem hlt]
  rcases honly _ (List.getElem_mem hlt) with hnil | ⟨b, hb, hshared⟩
  · cases hnil
  · rw [hshared] at hfound ⊢
    rw [hg b hb a ha (SharedCatalog.beq_iff.mp hfound)]

/-- Two groups have the same catalog behind the configurations at each place. -/
def SamePlaces (g g' : List ApiConfig) : Prop :=
  g.map (catalogPlace g) = g'.map (catalogPlace g')

/-- Different configurations and declarations of two groups are written differently. -/
structure GroupsApart (g g' : List ApiConfig) : Prop where
  configs : ∀ a ∈ g, ∀ b ∈ g', a.toJson = b.toJson → { a with shared := b.shared } = b
  catalogs : ∀ a ∈ g, ∀ b ∈ g', WrittenApart a.catalog b.catalog

theorem sameSource_of_sourceText {g g' : List ApiConfig} (hg : Labelled g) (hg' : Labelled g')
    (hapart : GroupsApart g g') (hplaces : SamePlaces g g')
    (h : DocumentKey.sourceText g = DocumentKey.sourceText g') :
    List.Forall₂ ApiConfig.SameSource g g' := by
  obtain ⟨hconfigs, hcatalogs⟩ := parts_of_sourceText h
  have hboth : g.map (fun a => (a.toJson, catalogPlace g a)) =
      g'.map fun a => (a.toJson, catalogPlace g' a) := by
    rw [← List.zip_map', ← List.zip_map', hconfigs, hplaces]
  refine (forall₂_of_map_eq hboth).imp fun a b ⟨ha, hb, hab⟩ => ?_
  obtain ⟨hjson, hplace⟩ := Prod.mk.inj hab
  refine ⟨hapart.configs a ha b hb hjson, (hapart.catalogs a ha b hb).sameDeclarations ?_⟩
  have hat : ((sharedCatalogs g).map (·.catalog.toJson))[catalogPlace g a]? =
      ((sharedCatalogs g').map (·.catalog.toJson))[catalogPlace g' b]? := by
    rw [hcatalogs, hplace]
  rw [List.getElem?_map, List.getElem?_map, catalog_at_place hg ha, catalog_at_place hg' hb] at hat
  exact Option.some.inj hat

end ServiceApi
