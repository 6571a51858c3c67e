import Mathlib
import ServiceApi.Proofs.TypeExpr.Grammar

/-! # Reading one token

A token stands behind all the blanks that there are, since no blank is part of a name. So each of
the reader's questions for a token is answered as the text is laid out. -/

namespace ServiceApi

/-! ## Blanks are in no name -/

namespace Text

theorem Ranges.contain_eq_false {rs ss : Ranges} {c : Char}
    (h : (rs.all fun r => ss.all fun s => r.2 < s.1 || s.2 < r.1) = true)
    (hc : rs.contain c = true) :
    ss.contain c = false := by
  obtain ⟨r, hr, hrc⟩ := Ranges.contain_iff.mp hc
  refine Bool.eq_false_iff.mpr fun hs => ?_
  obtain ⟨s, hs, hsc⟩ := Ranges.contain_iff.mp hs
  have hapart := List.all_eq_true.mp (List.all_eq_true.mp h r hr) s hs
  simp only [Bool.or_eq_true, decide_eq_true_eq] at hapart
  omega

theorem contain_of_isAlphanum {c : Char} (h : c.isAlphanum = true) :
    Ranges.contain [(0x30, 0x39), (0x41, 0x5A), (0x61, 0x7A)] c = true := by
  simp only [Char.isAlphanum, Char.isAlpha, Char.isUpper, Char.isLower,
    Char.isDigit, Bool.or_eq_true,
    Bool.and_eq_true, decide_eq_true_eq, ge_iff_le, UInt32.le_iff_toNat_le,
      Char.toNat_val, Char.reduceVal,
    UInt32.reduceToNat] at h
  simp only [Ranges.contain, List.any_cons, List.any_nil, Bool.or_false,
    Bool.or_eq_true, Bool.and_eq_true, decide_eq_true_eq]
  omega

theorem after?_eq_some_iff {start cs rest : List Char} :
    after? start cs = some rest ↔ cs = start ++ rest := by
  induction start generalizing cs with
  | nil => simp [after?]
  | cons p ps ih =>
    cases cs with
    | nil => simp [after?]
    | cons c cs =>
      rw [after?]
      split
      · rename_i h
        rw [ih, h, List.cons_append, List.cons_inj_right]
      · rename_i h
        simp [Ne.symm h]

end Text

namespace TypeExpr

open Text

variable {ts us : List Token} {cs mid rest w : List Char} {t : TypeExpr} {c : Char} {f k k' : Nat}

theorem isBlank_eq_false (h : isNameChar c = true) : isBlank c = false := by
  simp only [isNameChar, Bool.or_eq_true, beq_iff_eq] at h
  rcases h with ((h | rfl) | rfl) | rfl
  · rw [isAlphanumeric] at h
    split at h
    · exact Ranges.contain_eq_false (by decide) (contain_of_isAlphanum h)
    · exact Ranges.contain_eq_false (by decide +kernel) h
  all_goals decide

/-! ## One token -/

theorem takeWhile_append {p : Char → Bool} (hw : ∀ c ∈ w, p c = true)
    (hrest : ∀ c ∈ rest.head?, p c = false) :
    (w ++ rest).takeWhile p = w ∧ (w ++ rest).dropWhile p = rest := by
  rw [List.takeWhile_append_of_pos hw, List.dropWhile_append_of_pos hw]
  cases rest with
  | nil => simp
  | cons c rest => simp [hrest c rfl]

theorem head_dropWhile (p : Char → Bool) (cs : List Char) :
    ∀ c ∈ (cs.dropWhile p).head?, p c = false := by
  intro c hc
  have h := List.head?_dropWhile_not p cs
  rwa [hc] at h

theorem skipBlanks_append {blanks : List Char} (h : ∀ c ∈ blanks, isBlank c = true)
    (hcs : ∀ c ∈ cs.head?, isBlank c = false) : skipBlanks (blanks ++ cs) = cs :=
  (takeWhile_append h hcs).2

theorem skipBlanks_length_le (cs : List Char) : (skipBlanks cs).length ≤ cs.length :=
  (List.dropWhile_suffix _).length_le

theorem skipBlanks_eq_nil_iff : skipBlanks cs = [] ↔ ∀ c ∈ cs, isBlank c = true :=
  List.dropWhile_eq_nil_iff

theorem eat_eq_some_iff : eat c cs = some rest ↔ skipBlanks cs = c :: rest := by
  rw [eat]
  cases skipBlanks cs with
  | nil => simp
  | cons d ds => by_cases h : d = c <;> simp [h]

theorem eat_eq_none_iff : eat c cs = none ↔ ∀ d ∈ (skipBlanks cs).head?, d ≠ c := by
  rw [eat]
  cases skipBlanks cs with
  | nil => simp
  | cons d ds => by_cases h : d = c <;> simp [h]

theorem length_lt_of_eat (h : eat c cs = some rest) : rest.length < cs.length := by
  have hle := skipBlanks_length_le cs
  rw [eat_eq_some_iff.mp h, List.length_cons] at hle
  exact hle

theorem readName_eq_ok_iff :
    readName cs = .ok (w, rest) ↔ skipBlanks cs = w ++ rest ∧ Token.Stands (.word w) rest := by
  simp only [readName]
  constructor
  · intro h
    split at h
    · cases h
    · rename_i hname
      cases h
      exact ⟨List.takeWhile_append_dropWhile.symm,
        ⟨fun h => hname (h ▸ rfl), fun c hc => List.mem_takeWhile_imp hc⟩, head_dropWhile _ _⟩
  · rintro ⟨h, ⟨hne, hw⟩, hrest⟩
    obtain ⟨htake, hdrop⟩ := takeWhile_append hw hrest
    rw [h, htake, hdrop, if_neg (by simpa using hne)]

theorem Token.not_isBlank_head {tok : Token} (h : tok.Stands cs) :
    ∀ c ∈ (tok.chars ++ cs).head?, isBlank c = false := by
  cases tok with
  | mark m => cases m <;> simp [Mark.char] <;> decide
  | bound => simp; decide
  | word w =>
    obtain ⟨⟨hne, hw⟩, -⟩ := h
    cases w with
    | nil => exact absurd rfl hne
    | cons d ds =>
      rintro c ⟨⟩
      exact isBlank_eq_false (hw _ List.mem_cons_self)

/-- A token stands behind all the blanks that are there. -/
theorem lays_cons_iff {tok : Token} : Lays (tok :: ts) cs rest ↔
    ∃ cs', skipBlanks cs = tok.chars ++ cs' ∧ tok.Stands cs' ∧ Lays ts cs' rest := by
  constructor
  · rintro ⟨⟩
    rename_i hblanks hstands h
    exact ⟨_, skipBlanks_append hblanks (Token.not_isBlank_head hstands), hstands, h⟩
  · rintro ⟨cs', hskip, hstands, h⟩
    rw [← List.takeWhile_append_dropWhile (p := isBlank) (l := cs), ← skipBlanks, hskip]
    exact .cons (fun c hc => List.mem_takeWhile_imp hc) hstands h

theorem lays_mark_iff {m : Mark} :
    Lays (.mark m :: ts) cs rest ↔ ∃ cs', eat m.char cs = some cs' ∧ Lays ts cs' rest := by
  simp [lays_cons_iff, eat_eq_some_iff, Token.Stands]

theorem lays_bound_iff : Lays (.bound :: ts) cs rest ↔
    ∃ cs', after? "extends".toList (skipBlanks cs) = some cs' ∧ Lays ts cs' rest := by
  simp [lays_cons_iff, after?_eq_some_iff, Token.Stands]

theorem lays_word_iff :
    Lays (.word w :: ts) cs rest ↔ ∃ cs', readName cs = .ok (w, cs') ∧ Lays ts cs' rest := by
  simp only [lays_cons_iff, readName_eq_ok_iff, and_assoc]
  rfl

/-- A token takes a character at least. -/
theorem Lays.length_le (h : Lays ts cs rest) : ts.length + rest.length ≤ cs.length := by
  induction h with
  | nil => simp
  | @cons tok ts blanks cs rest _ hstands _ ih =>
    have hchars : 0 < tok.chars.length := by
      cases tok with
      | word w => exact List.length_pos_iff.mpr hstands.1.1
      | _ => exact Nat.succ_pos _
    simp only [List.length_append, List.length_cons]
    omega

end TypeExpr

end ServiceApi
