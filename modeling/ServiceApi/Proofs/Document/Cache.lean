import ServiceApi.Proofs.Compile
import ServiceApi.Proofs.Document.Keys
import ServiceApi.Proofs.Document.References
import ServiceApi.Proofs.Lru

/-! # What a cache hands out

A document that is found under a key was rendered from some group with this key. It is the document
of the group that asks for it, as long as the groups with one key have their catalogs behind the
same configurations. -/

namespace ServiceApi

open Compile

variable {G : List ApiConfig → Prop} {R : Repository → Prop}

theorem DocumentFormat.extension_inj {format format' : DocumentFormat}
    (h : format.extension = format'.extension) : format = format' := by
  cases format <;> cases format' <;> first | rfl | exact absurd h (by decide)

namespace DocumentKey

theorem ofConfigs_eq_ok {format : DocumentFormat} {g : List ApiConfig} {key : DocumentKey}
    (h : ofConfigs format g = .ok key) :
    key.extension = format.extension ∧ key.source = sourceText g := by
  cases g with
  | nil => cases h
  | cons a rest =>
    cases h
    exact ⟨rfl, rfl⟩

end DocumentKey

namespace DocumentCache

/-- Groups of which the key tells everything that a document shows. -/
structure Told (G : List ApiConfig → Prop) : Prop where
  labelled : ∀ g, G g → Labelled g
  apart : ∀ g g', G g → G g' → GroupsApart g g'
  places : ∀ g g', G g → G g' →
    DocumentKey.sourceText g = DocumentKey.sourceText g' → SamePlaces g g'

theorem Told.render_eq (h : Told G) {g g' : List ApiConfig} (hg : G g) (hg' : G g')
    (htext : DocumentKey.sourceText g = DocumentKey.sourceText g') (format : DocumentFormat)
    (fuel : Nat) : format.render fuel g = format.render fuel g' :=
  format.render_congr fuel (sameSource_of_sourceText (h.labelled g hg) (h.labelled g' hg')
    (h.apart g g' hg hg') (h.places g g' hg hg' htext) htext)

/-- A cache that has served groups of `G` out of repositories of `R`. -/
inductive Served (G : List ApiConfig → Prop) (R : Repository → Prop) : DocumentCache → Prop
  | empty (capacity : Nat) (h : 0 < capacity) : Served G R (.empty capacity h)
  | clear {cache : DocumentCache} : Served G R cache → Served G R cache.clear
  | serve {cache : DocumentCache} (fuel : Nat) (format : DocumentFormat) {g : List ApiConfig}
      {repo : Repository} : Served G R cache → G g → R repo →
      Served G R (cache.getOrRender repo fuel format g).2.1

/-- The text is a document of `g`, rendered out of a repository of `R`. -/
def DocumentOf (R : Repository → Prop) (format : DocumentFormat)
    (g : List ApiConfig) (text : String) : Prop :=
  ∃ fuel repo, R repo ∧ ((format.render fuel g).result repo).1 = .ok text

/-- The text is a document of a group with this key. -/
def DocumentUnder (G : List ApiConfig → Prop) (R : Repository → Prop) (key : DocumentKey)
    (text : String) : Prop :=
  ∃ format g, G g ∧ DocumentKey.ofConfigs format g = .ok key ∧ DocumentOf R format g text

def Kept (G : List ApiConfig → Prop) (R : Repository → Prop) (cache : DocumentCache) : Prop :=
  ∀ e ∈ cache.documents.entries, DocumentUnder G R e.1 e.2.text

theorem Kept.store {cache : DocumentCache} (h : Kept G R cache) {key : DocumentKey}
    {document : CachedDocument} (hdoc : DocumentUnder G R key document.text) :
    Kept G R (cache.store key document) := by
  intro e he
  rcases List.mem_cons.mp he with rfl | he
  · exact hdoc
  · exact h e (List.mem_of_mem_filter (List.mem_of_mem_take he))

/-- Serving a group keeps every document with its key, and answers with a document of this key. -/
theorem Kept.serve {cache : DocumentCache} (h : Kept G R cache) (fuel : Nat)
    (format : DocumentFormat) {g : List ApiConfig} {repo : Repository} (hg : G g) (hrepo : R repo) :
    Kept G R (cache.getOrRender repo fuel format g).2.1 ∧
      ∀ doc, (cache.getOrRender repo fuel format g).1 = .ok doc →
        ∃ key, DocumentKey.ofConfigs format g = .ok key ∧ DocumentUnder G R key doc.text := by
  unfold getOrRender getOrRenderWith
  have hsource : DocumentKey.ofSource (format.writer fuel).name (format.writer fuel).extension g =
      DocumentKey.ofConfigs format g := rfl
  rw [hsource]
  cases hkey : DocumentKey.ofConfigs format g with
  | error e => exact ⟨h, fun doc hdoc => by cases hdoc⟩
  | ok key =>
    dsimp only
    cases huse : cache.documents.use? key with
    | some found =>
      obtain ⟨document, documents⟩ := found
      obtain ⟨hmem, hsub⟩ := Lru.use?_entries huse
      refine ⟨fun e he => h e (hsub e he), fun doc hdoc => ⟨key, rfl, ?_⟩⟩
      cases hdoc
      exact h _ hmem
    | none =>
      dsimp only
      cases hrender : ((format.writer fuel).render g).run.run repo with
      | mk r repo' =>
        cases r with
        | error e => exact ⟨h, fun doc hdoc => by cases hdoc⟩
        | ok text =>
          have hunder : DocumentUnder G R key text :=
            ⟨format, g, hg, hkey, fuel, repo, hrepo, congrArg Prod.fst hrender⟩
          refine ⟨Kept.store (fun e he => h e he) hunder, fun doc hdoc => ⟨key, rfl, ?_⟩⟩
          cases hdoc
          exact hunder

/-- What can be rendered is handed out. -/
theorem getOrRender_ok {cache : DocumentCache} {repo u : Repository} {fuel : Nat}
    {format : DocumentFormat} {g : List ApiConfig} {text : String}
    (h : (format.render fuel g).result repo = (.ok text, u)) :
    ∃ doc, (cache.getOrRender repo fuel format g).1 = .ok doc := by
  cases g with
  | nil => cases h
  | cons a rest =>
    unfold getOrRender getOrRenderWith
    simp only [DocumentKey.ofSource]
    split
    · exact ⟨_, rfl⟩
    · have h : ((format.writer fuel).render (a :: rest)).run.run repo = (.ok text, u) := h
      rw [h]
      exact ⟨_, rfl⟩

theorem Served.kept {cache : DocumentCache} (h : Served G R cache) : Kept G R cache := by
  induction h with
  | empty => exact fun e he => (List.not_mem_nil he).elim
  | clear => exact fun e he => (List.not_mem_nil he).elim
  | serve fuel format _ hg hrepo ih => exact (ih.serve fuel format hg hrepo).1

/-- Of two groups with one key each format makes the same document, on new repositories as on
others, and a cache hands out to a group no documents but its own. -/
theorem documents_follow_their_keys (hG : Told G) :
    (∀ format g g' key, G g → G g' → DocumentKey.ofConfigs format g = .ok key →
      DocumentKey.ofConfigs format g' = .ok key → ∀ fuel repo,
        (format.render fuel g).result repo = (format.render fuel g').result repo) ∧
    ∀ R cache, Served G R cache → ∀ fuel format g repo doc, G g → R repo →
      (cache.getOrRender repo fuel format g).1 = .ok doc → DocumentOf R format g doc.text := by
  refine ⟨fun format g g' key hg hg' hkey hkey' fuel repo => ?_,
    fun R cache hcache fuel format g repo doc hg hrepo hdoc => ?_⟩
  · have htext :=
      (DocumentKey.ofConfigs_eq_ok hkey).2.symm.trans (DocumentKey.ofConfigs_eq_ok hkey').2
    rw [hG.render_eq hg hg' htext]
  · obtain ⟨key, hkey, format', g', hg', hkey', fuel', repo', hrepo', hdoc⟩ :=
      (hcache.kept.serve fuel format hg hrepo).2 doc hdoc
    obtain ⟨hextension, htext⟩ := DocumentKey.ofConfigs_eq_ok hkey
    obtain ⟨hextension', htext'⟩ := DocumentKey.ofConfigs_eq_ok hkey'
    obtain rfl := DocumentFormat.extension_inj (hextension.symm.trans hextension')
    rw [hG.render_eq hg' hg (htext'.symm.trans htext)] at hdoc
    exact ⟨fuel', repo', hrepo', hdoc⟩

open DocumentFormat Repository

/-- The service, loaded from a copy of its catalog. -/
def copiedConfig : ApiConfig := { nodeConfig with shared := ⟨"copy", selfReferring⟩ }

theorem documents_follow_their_keys_copied :
    let served := (DocumentCache.getOrRender (.empty 4) {} 9 legacy [nodeConfig]).2.1
    ∃ key doc, DocumentKey.ofConfigs legacy [nodeConfig] = .ok key ∧
      DocumentKey.ofConfigs legacy [copiedConfig] = .ok key ∧
      (legacy.render 9 [nodeConfig]).result {} = (legacy.render 9 [copiedConfig]).result {} ∧
      (served.getOrRender {} 9 legacy [copiedConfig]).1 = .ok doc ∧
      DocumentOf (· = {}) legacy [copiedConfig] doc.text := by
  intro served
  let G : List ApiConfig → Prop := (· ∈ [[nodeConfig], [copiedConfig]])
  have hcases : ∀ g, G g → g = [nodeConfig] ∨ g = [copiedConfig] := fun g hg => by
    simpa [G] using hg
  have hG : Told G := by
    refine ⟨fun g hg a ha b hb _ => ?_, fun g g' hg hg' => ?_, fun g g' hg hg' _ => ?_⟩
    · rcases hcases g hg with rfl | rfl <;> rw [List.mem_singleton.mp ha, List.mem_singleton.mp hb]
    · constructor
      · intro a ha b hb _
        rcases hcases g hg with rfl | rfl <;> rcases hcases g' hg' with rfl | rfl <;>
          rw [List.mem_singleton.mp ha, List.mem_singleton.mp hb] <;> rfl
      · intro a ha b hb
        rcases hcases g hg with rfl | rfl <;> rcases hcases g' hg' with rfl | rfl <;>
          rw [List.mem_singleton.mp ha, List.mem_singleton.mp hb] <;> exact .refl _
    · rcases hcases g hg with rfl | rfl <;> rcases hcases g' hg' with rfl | rfl <;> rfl
  have hnode : G [nodeConfig] := by simp [G]
  have hcopied : G [copiedConfig] := by simp [G]
  obtain ⟨hsame, hserved⟩ := documents_follow_their_keys hG
  have hok : ((legacy.render 9 [copiedConfig]).result {}).1.isOk = true := by decide +kernel
  rcases hr : (legacy.render 9 [copiedConfig]).result {} with ⟨r, u⟩
  rw [hr] at hok
  cases r with
  | error e => cases hok
  | ok text =>
    obtain ⟨doc, hdoc⟩ : ∃ doc, (served.getOrRender {} 9 legacy [copiedConfig]).1 = .ok doc :=
      getOrRender_ok hr
    refine ⟨_, doc, rfl, rfl, ?_, hdoc, ?_⟩
    · rw [← hr]
      exact hsame legacy _ _ _ hnode hcopied rfl rfl 9 {}
    · exact hserved (· = {}) served (.serve 9 legacy (.empty 4 (by omega)) hnode rfl) 9 legacy _ {}
        doc
        hcopied rfl hdoc

/-- A service without methods. -/
def bareService (shared : SharedCatalog) (name : String) : ApiConfig := .default shared {} name

/-- The class does not refer to itself any more. -/
def bareCatalog : SharedCatalog := ⟨"bare", selfReferring.addClass { name := "Node" }⟩

/-- Three services over two catalogs. -/
def threeServices (third : SharedCatalog) : List ApiConfig :=
  [bareService nodeConfig.shared "First", bareService bareCatalog "Second",
    { nodeConfig with shared := third }]

theorem shared_of_threeServices {third : SharedCatalog}
    (h : third = nodeConfig.shared ∨ third = bareCatalog) :
    ∀ a ∈ threeServices third, a.shared = nodeConfig.shared ∨ a.shared = bareCatalog := by
  simp only [threeServices, List.forall_mem_cons]
  exact ⟨Or.inl rfl, Or.inr rfl, h, fun a ha => (List.not_mem_nil ha).elim⟩

theorem labelled_threeServices {third : SharedCatalog}
    (h : third = nodeConfig.shared ∨ third = bareCatalog) : Labelled (threeServices third) := by
  have hne : nodeConfig.shared.label ≠ bareCatalog.label := by decide
  intro a ha b hb hlabel
  rcases shared_of_threeServices h a ha with ha | ha <;>
    rcases shared_of_threeServices h b hb with hb | hb <;> rw [ha, hb] at hlabel ⊢
  · exact absurd hlabel hne
  · exact absurd hlabel.symm hne

theorem bareCatalog_apart : WrittenApart selfReferring bareCatalog.catalog := by
  refine .addClass fun d hd hjson => ?_
  have hnode : selfReferring.class? "Node" =
      some { name := "Node", properties := [{ name := "next", type := .raw "Node" }] } := by
    decide +kernel
  cases hnode.symm.trans hd
  simp [ClassDecl.toJson, Json.list] at hjson

theorem serviceClass_of_toJson {a b : ApiConfig} (h : a.toJson = b.toJson) :
    a.classConfig.serviceClass = b.classConfig.serviceClass := by
  simp only [ApiConfig.toJson, ClassConfig.toJson, Json.obj.injEq, List.cons.injEq, Prod.mk.injEq,
    Json.str.injEq, true_and, and_true] at h
  simp only [h]

theorem threeServices_apart :
    GroupsApart (threeServices nodeConfig.shared) (threeServices bareCatalog) := by
  constructor
  · intro a ha b hb hjson
    have hclass := serviceClass_of_toJson hjson
    simp only [threeServices, List.mem_cons, List.not_mem_nil, or_false] at ha hb
    rcases ha with rfl | rfl | rfl <;> rcases hb with rfl | rfl | rfl <;>
      first | rfl | exact absurd hclass (by decide)
  · intro a ha b hb
    rw [ApiConfig.catalog, ApiConfig.catalog]
    rcases shared_of_threeServices (Or.inl rfl) a ha with ha | ha <;>
      rcases shared_of_threeServices (Or.inr rfl) b hb with hb | hb <;> rw [ha, hb]
    · exact .refl _
    · exact bareCatalog_apart
    · exact bareCatalog_apart.symm
    · exact .refl _

/-- The key has each catalog once. So it stays the same when a configuration moves to the other one,
and the document does not. -/
theorem keys_leave_out_whose_catalog :
    let g := threeServices nodeConfig.shared
    let g' := threeServices bareCatalog
    Labelled g ∧ Labelled g' ∧ GroupsApart g g' ∧ (Validate.configs 9 g).isOk = true ∧
      (Validate.configs 9 g').isOk = true ∧
      DocumentKey.ofConfigs openApi g = DocumentKey.ofConfigs openApi g' ∧
      ((openApi.render 9 g).result {}).1.isOk = true ∧
        ((openApi.render 9 g').result {}).1.isOk = true ∧
      ((openApi.render 9 g).result {}).1.toOption ≠
        ((openApi.render 9 g').result {}).1.toOption := by
  intro g g'
  exact ⟨labelled_threeServices (Or.inl rfl), labelled_threeServices (Or.inr rfl),
    threeServices_apart, by decide +kernel, by decide +kernel, rfl, by decide +kernel,
    by decide +kernel, by decide +kernel⟩

end DocumentCache

end ServiceApi
