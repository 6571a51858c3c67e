import Mathlib.Data.List.Basic
import Mathlib.Data.List.TakeWhile
import ServiceApi.Text.Blank

/-! # The words of a text

A word is a run of characters that are not blank, as long as it can be. A cut of a text at a blank
cuts no word, so its words are those before the cut and then those behind it; and words that are
joined by single spaces are found again, in their order. -/

namespace ServiceApi.Text

variable {w cs ds : List Char} {ws : List (List Char)} {b c : Char}

/-- Something, and no blank in it. -/
structure IsWord (w : List Char) : Prop where
  ne_nil : w ≠ []
  not_blank : ∀ c ∈ w, isBlank c = false

/-- `w` stands in `cs` between blanks, or at its ends. -/
structure IsWordOf (w cs : List Char) : Prop extends IsWord w where
  stands : ∃ before after, cs = before ++ w ++ after ∧ (∀ c ∈ before.getLast?, isBlank c = true) ∧
    ∀ c ∈ after.head?, isBlank c = true

theorem wordsOf_cons_of_blank (h : isBlank c = true) : wordsOf (c :: cs) = wordsOf cs := if_pos h

/-- A first character before a blank, or at the end, is a word of its own. -/
theorem wordsOf_cons_of_stop (h : isBlank c = false) (hcs : ∀ d ∈ cs.head?, isBlank d = true) :
    wordsOf (c :: cs) = [c] :: wordsOf cs := by
  refine (if_neg (Bool.eq_false_iff.mp h)).trans ?_
  split
  · rename_i d ds w ws hwords
    rw [if_pos (hcs d rfl), hwords]
  · rfl

/-- A character before another one that is not blank belongs to the word of that. -/
theorem wordsOf_cons_of_go (h : isBlank c = false) (hb : isBlank b = false)
    (hwords : wordsOf (b :: cs) = w :: ws) : wordsOf (c :: b :: cs) = (c :: w) :: ws := by
  refine (if_neg (Bool.eq_false_iff.mp h)).trans ?_
  rw [hwords]
  exact if_neg (Bool.eq_false_iff.mp hb)

/-- What does not begin with a blank has a first word. -/
theorem exists_wordsOf_cons (h : isBlank c = false) (cs : List Char) :
    ∃ w ws, wordsOf (c :: cs) = w :: ws := by
  induction cs generalizing c with
  | nil => exact ⟨[c], [], wordsOf_cons_of_stop h nofun⟩
  | cons d cs ih =>
    cases hd : isBlank d with
    | true => exact ⟨[c], wordsOf (d :: cs), wordsOf_cons_of_stop h (by simp [hd])⟩
    | false =>
      obtain ⟨w, ws, hwords⟩ := ih hd
      exact ⟨c :: w, ws, wordsOf_cons_of_go h hd hwords⟩

/-- No word goes on across the beginning of `ds`. -/
theorem wordsOf_append (hds : ∀ c ∈ ds.head?, isBlank c = true) :
    wordsOf (cs ++ ds) = wordsOf cs ++ wordsOf ds := by
  induction cs with
  | nil => rfl
  | cons c cs ih =>
    cases hc : isBlank c with
    | true => rw [List.cons_append, wordsOf_cons_of_blank hc, wordsOf_cons_of_blank hc, ih]
    | false =>
      cases cs with
      | nil =>
        have hend : wordsOf [c] = [[c]] := wordsOf_cons_of_stop hc (by simp)
        rw [List.singleton_append, wordsOf_cons_of_stop hc hds, hend, List.singleton_append]
      | cons d cs =>
        cases hd : isBlank d with
        | true =>
          have hstop (es : List Char) : ∀ e ∈ (d :: es).head?, isBlank e = true := by simp [hd]
          rw [List.cons_append, List.cons_append, wordsOf_cons_of_stop hc (hstop _),
            wordsOf_cons_of_stop hc (hstop _), ← List.cons_append, ih, List.cons_append]
        | false =>
          obtain ⟨w, ws, hwords⟩ := exists_wordsOf_cons hd cs
          have hall : wordsOf (d :: (cs ++ ds)) = w :: (ws ++ wordsOf ds) := by
            rw [← List.cons_append, ih, hwords, List.cons_append]
          rw [List.cons_append, List.cons_append, wordsOf_cons_of_go hc hd hall,
            wordsOf_cons_of_go hc hd hwords, List.cons_append]

theorem wordsOf_append_blank (hb : isBlank b = true) (cs ds : List Char) :
    wordsOf (cs ++ b :: ds) = wordsOf cs ++ wordsOf ds := by
  rw [wordsOf_append (by simp [hb]), wordsOf_cons_of_blank hb]

/-- No word goes on across the end of `cs`. -/
theorem wordsOf_append_of_getLast? (hcs : ∀ c ∈ cs.getLast?, isBlank c = true) :
    wordsOf (cs ++ ds) = wordsOf cs ++ wordsOf ds := by
  rcases List.eq_nil_or_concat cs with rfl | ⟨cs, b, rfl⟩
  · rfl
  · have hb : isBlank b = true := hcs b (by simp)
    rw [List.concat_append, wordsOf_append_blank hb, List.concat_eq_append,
      wordsOf_append_blank hb, wordsOf, List.append_nil]

theorem IsWord.wordsOf_eq (h : IsWord w) : wordsOf w = [w] := by
  obtain ⟨hne, hblank⟩ := h
  induction w with
  | nil => exact absurd rfl hne
  | cons c w ih =>
    obtain ⟨hc, hw⟩ := List.forall_mem_cons.mp hblank
    cases w with
    | nil => exact wordsOf_cons_of_stop hc nofun
    | cons d w => exact wordsOf_cons_of_go hc (hw d List.mem_cons_self) (ih (by simp) hw)

/-- The first word is the run that the text begins with. -/
theorem exists_first_word (h : isBlank c = false) (cs : List Char) :
    ∃ w after, c :: cs = w ++ after ∧ IsWord w ∧
    (∀ d ∈ after.head?, isBlank d = true) ∧ after.length ≤ cs.length := by
  let p : Char → Bool := fun d => !isBlank d
  refine ⟨c :: cs.takeWhile p, cs.dropWhile p, ?_,
    ⟨by simp, List.forall_mem_cons.mpr ⟨h, fun d hd => ?_⟩⟩,
    fun d hd => ?_, (List.dropWhile_suffix p).length_le⟩
  · rw [List.cons_append, List.takeWhile_append_dropWhile]
  · simpa [p] using List.mem_takeWhile_imp hd
  · have hnot := List.head?_dropWhile_not p cs
    rw [hd] at hnot
    simpa [p] using hnot

/-- A word of a text is one behind another text too, if there is a blank at the border. -/
theorem IsWordOf.behind (h : IsWordOf w ds)
    (hcut : (∀ b ∈ cs.getLast?, isBlank b = true) ∨ ∀ b ∈ ds.head?, isBlank b = true) :
    IsWordOf w (cs ++ ds) := by
  obtain ⟨hw, before, after, rfl, hbefore, hafter⟩ := h
  refine ⟨hw, cs ++ before, after, by simp, fun b hb => ?_, hafter⟩
  cases before with
  | nil =>
    rw [List.append_nil] at hb
    refine hcut.elim (fun hcut => hcut b hb) fun hcut => ?_
    obtain ⟨c, w, rfl⟩ := List.exists_cons_of_ne_nil hw.ne_nil
    exact absurd (hcut c rfl) (by simp [hw.not_blank c List.mem_cons_self])
  | cons d before =>
    rw [List.getLast?_append_of_ne_nil _ (by simp)] at hb
    exact hbefore b hb

theorem isWordOf_of_mem : ∀ {cs : List Char}, w ∈ wordsOf cs → IsWordOf w cs
  | [], h => by cases h
  | c :: cs, h => by
    cases hc : isBlank c with
    | true =>
      rw [wordsOf_cons_of_blank hc] at h
      rw [← List.singleton_append]
      exact (isWordOf_of_mem h).behind (.inl (by simp [hc]))
    | false =>
      obtain ⟨first, after, hsplit, hfirst, hstop, hle⟩ := exists_first_word hc cs
      rw [hsplit, wordsOf_append hstop, hfirst.wordsOf_eq] at h
      rw [hsplit]
      rcases List.mem_cons.mp h with rfl | h
      · exact ⟨hfirst, [], after, rfl, nofun, hstop⟩
      · exact (isWordOf_of_mem h).behind (.inr hstop)
termination_by cs => cs.length

theorem mem_wordsOf_iff : w ∈ wordsOf cs ↔ IsWordOf w cs := by
  refine ⟨isWordOf_of_mem, fun h => ?_⟩
  obtain ⟨hw, before, after, rfl, hbefore, hafter⟩ := h
  rw [wordsOf_append hafter, wordsOf_append_of_getLast? hbefore, hw.wordsOf_eq]
  simp

/-- Joined by a blank, words are found again. -/
theorem wordsOf_intercalate (hb : isBlank b = true) :
    ∀ {ws : List (List Char)}, (∀ w ∈ ws, IsWord w) → wordsOf (List.intercalate [b] ws) = ws
  | [], _ => rfl
  | [w], h => by
    rw [List.intercalate_singleton]
    exact (h w List.mem_cons_self).wordsOf_eq
  | w :: w' :: ws, h => by
    obtain ⟨hw, hws⟩ := List.forall_mem_cons.mp h
    rw [List.intercalate_cons_cons, List.append_assoc, List.singleton_append,
      wordsOf_append_blank hb, hw.wordsOf_eq, wordsOf_intercalate hb hws, List.singleton_append]

end ServiceApi.Text
