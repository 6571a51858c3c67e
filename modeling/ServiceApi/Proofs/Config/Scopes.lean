import ServiceApi.Auth
import ServiceApi.Proofs.Text.Words

/-! # The normal form of scope requirements

A requirement lists words, and no alternative of it is empty. Written out, such a requirement is
read back as it is, whatever blanks there were in the texts that it came from. -/

namespace ServiceApi.ScopeExpression

variable {e : ScopeExpression} {s t : String} {scopes group : List String}

/-- Each alternative asks for something, and each scope is one word. -/
structure IsNormal (e : ScopeExpression) : Prop where
  ne_nil : ∀ group ∈ e.alternatives, group ≠ []
  isWord : ∀ group ∈ e.alternatives, ∀ s ∈ group, Text.IsWord s.toList

theorem mem_words_iff : s ∈ Text.words t ↔ Text.IsWordOf s.toList t.toList := by
  rw [Text.words, List.mem_map, ← Text.mem_wordsOf_iff]
  constructor
  · intro h
    obtain ⟨w, hw, rfl⟩ := h
    rwa [String.toList_ofList]
  · intro h
    exact ⟨s.toList, h, String.ofList_toList⟩

theorem words_intercalate (h : ∀ s ∈ group, Text.IsWord s.toList) :
    Text.words (" ".intercalate group) = group := by
  have hwords : ∀ w ∈ group.map String.toList, Text.IsWord w := List.forall_mem_map.mpr h
  have hblank : Text.isBlank ' ' = true := by decide
  rw [Text.words, String.toList_intercalate]
  show (Text.wordsOf (List.intercalate [' '] _)).map String.ofList = group
  rw [Text.wordsOf_intercalate hblank hwords, List.map_map]
  simp [Function.comp_def]

theorem isNormal_ofScopes (scopes : List String) : (ofScopes scopes).IsNormal := by
  constructor
  · intro group hgroup
    simpa using (List.mem_filter.mp hgroup).2
  · intro group hgroup s hs
    obtain ⟨t, -, rfl⟩ := List.mem_map.mp (List.mem_filter.mp hgroup).1
    exact (mem_words_iff.mp hs).toIsWord

/-- What is written of a requirement is read back as that requirement, just if it is in normal
form. -/
theorem ofScopes_toScopes_iff : ofScopes e.toScopes = e ↔ e.IsNormal := by
  refine ⟨fun h => h ▸ isNormal_ofScopes _, fun h => ?_⟩
  have hwords : e.toScopes.map Text.words = e.alternatives := by
    rw [toScopes, List.map_map]
    exact (List.map_congr_left fun group hgroup => words_intercalate (h.isWord group hgroup)).trans
      (List.map_id' _)
  have hkept : e.alternatives.filter (!·.isEmpty) = e.alternatives :=
    List.filter_eq_self.mpr fun group hgroup => by simpa using h.ne_nil group hgroup
  rw [ofScopes, hwords, hkept]

/-! ## All scopes -/

theorem mem_insertSorted {acc : List String} : t ∈ insertSorted s acc ↔ t = s ∨ t ∈ acc := by
  induction acc with
  | nil => simp [insertSorted]
  | cons u acc ih =>
    rw [insertSorted]
    split
    · exact List.mem_cons
    · split
      · rename_i heq
        simp [heq]
      · rw [List.mem_cons, ih, List.mem_cons, or_left_comm]

theorem pairwise_insertSorted {acc : List String} (h : acc.Pairwise (· < ·)) :
    (insertSorted s acc).Pairwise (· < ·) := by
  induction acc with
  | nil => exact List.pairwise_singleton _ _
  | cons u acc ih =>
    have hu := List.pairwise_cons.mp h
    rw [insertSorted]
    split
    · rename_i hlt
      exact List.pairwise_cons.mpr ⟨List.forall_mem_cons.mpr
        ⟨hlt, fun v hv => String.lt_trans hlt (hu.1 v hv)⟩, h⟩
    · split
      · rename_i heq
        exact heq ▸ h
      · rename_i hlt hne
        refine List.pairwise_cons.mpr ⟨fun v hv => ?_, ih hu.2⟩
        rcases mem_insertSorted.mp hv with rfl | hv
        · by_contra h
          exact hne (String.le_antisymm (String.not_lt.mp h) (String.not_lt.mp hlt))
        · exact hu.1 v hv

theorem foldl_insertSorted (scopes : List String) : ∀ {acc : List String}, acc.Pairwise (· < ·) →
    let all := scopes.foldl (fun acc s => insertSorted s acc) acc
    all.Pairwise (· < ·) ∧ ∀ t, t ∈ all ↔ t ∈ acc ∨ t ∈ scopes := by
  induction scopes with
  | nil => exact fun h => ⟨h, by simp⟩
  | cons s scopes ih =>
    intro acc h
    obtain ⟨hsorted, hmem⟩ := ih (pairwise_insertSorted h)
    refine ⟨hsorted, fun t => (hmem t).trans ?_⟩
    rw [mem_insertSorted, List.mem_cons, or_assoc, or_left_comm]

/-- A scope requirement is in normal form: it is what is read of its own texts, and these are texts
of words that are separated by single spaces. The scopes that it mentions are the words of the texts
that it was made of, each once. -/
theorem scope_requirements_are_normal (scopes : List String) :
    let e := ofScopes scopes
    e.IsNormal ∧ ofScopes e.toScopes = e ∧ e.allScopes.Pairwise (· < ·) ∧
      ∀ s, s ∈ e.allScopes ↔ ∃ t ∈ scopes, Text.IsWordOf s.toList t.toList := by
  intro e
  have hnormal : e.IsNormal := isNormal_ofScopes scopes
  obtain ⟨hsorted, hmem⟩ := foldl_insertSorted e.alternatives.flatten List.Pairwise.nil
  refine ⟨hnormal, ofScopes_toScopes_iff.mpr hnormal, hsorted, fun s => (hmem s).trans ?_⟩
  rw [List.mem_flatten]
  constructor
  · intro h
    obtain ⟨group, hgroup, hs⟩ := h.resolve_left List.not_mem_nil
    obtain ⟨t, ht, rfl⟩ := List.mem_map.mp (List.mem_filter.mp hgroup).1
    exact ⟨t, ht, mem_words_iff.mp hs⟩
  · intro h
    obtain ⟨t, ht, hs⟩ := h
    have hs : s ∈ Text.words t := mem_words_iff.mpr hs
    have hkept : (!(Text.words t).isEmpty) = true := by simpa using List.ne_nil_of_mem hs
    exact .inr ⟨_, List.mem_filter.mpr ⟨List.mem_map_of_mem ht, hkept⟩, hs⟩

example : (ofScopes ["b\ta ", "  ", "b"]).toScopes = ["b a", "b"] := by decide

end ServiceApi.ScopeExpression
