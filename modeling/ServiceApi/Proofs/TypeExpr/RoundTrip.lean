import ServiceApi.Proofs.TypeExpr.Reading

/-! # Texts and types

A text is read as the type that it spells, and the text that a type is written as spells it, if
there is a spelling at all. -/

namespace ServiceApi.TypeExpr

open Text

variable {s : String} {rest : List Char} {t : TypeExpr}

/-! ## What is read -/

/-- Reading succeeds just on the spellings. -/
theorem parse_eq_ok_iff : parse s = .ok t ↔
    t.Spellable ∧ ∃ rest, Lays t.tokens s.toList rest ∧ skipBlanks rest = [] := by
  constructor
  · intro h
    simp only [parse] at h
    cases hread : readType (3 * s.toList.length + 3) s.toList with
    | error e => cases e <;> simp only [hread] at h <;> cases h
    | ok r =>
      obtain ⟨t', rest⟩ := r
      obtain ⟨ht, hlays, -⟩ := spellable_of_readType (Nat.le_succ _) hread
      simp only [hread] at h
      split at h
      · rename_i hrest
        cases h
        exact ⟨ht, rest, hlays, hrest⟩
      · cases h
  · rintro ⟨ht, rest, hlays, hrest⟩
    have hclose : Closes rest := by
      rw [Closes, hrest]
      intro c hc
      cases hc
    have hread : readType (3 * s.toList.length + 3) s.toList = .ok (t, rest) :=
      (readType_of_lays ht hlays hclose.endsBefore (Nat.le_succ _) (Nat.le_refl _)).trans
        (readBrackets_of_eat_none hclose.eat_eq_none)
    simp only [parse, hread, hrest]

theorem isSpelling_iff :
    IsSpelling s t ↔ t.Spellable ∧ ∃ rest, Lays t.tokens s.toList rest ∧ skipBlanks rest = [] := by
  constructor
  · rintro ⟨ts, rest, hspells, hlays, hrest⟩
    obtain ⟨ht, rfl⟩ := spells_iff.mp hspells
    exact ⟨ht, rest, hlays, skipBlanks_eq_nil_iff.mpr hrest⟩
  · rintro ⟨ht, rest, hlays, hrest⟩
    exact ⟨t.tokens, rest, ht.spells, hlays, skipBlanks_eq_nil_iff.mp hrest⟩

/-! ## What is written -/

section

variable (p : Primitive) (name : String) (u : TypeExpr) (us : List TypeExpr)

@[simp] theorem chars_primitive : (TypeExpr.primitive p).chars = p.name.toList := rfl

@[simp] theorem chars_raw : (raw name).chars = name.toList := rfl

@[simp] theorem chars_named :
    (TypeExpr.named name (u :: us)).chars =
      name.toList ++ '<' :: (u.chars ++ tailChars us ++ ['>']) := rfl

@[simp] theorem chars_array : u.array.chars = u.chars ++ ['[', ']'] := rfl

@[simp] theorem chars_var : (TypeExpr.var name).chars = name.toList := rfl

@[simp] theorem chars_bounded : u.bounded.chars = "? extends ".toList ++ u.chars := rfl

@[simp] theorem tailChars_nil : tailChars [] = [] := rfl

@[simp] theorem tailChars_cons :
    tailChars (u :: us) = ',' :: ' ' :: (u.chars ++ tailChars us) := rfl

end

theorem isWord_primitive (p : Primitive) : IsWord p.name.toList := by
  cases p <;> decide

theorem isNameChar_of_isAlphanum {c : Char} (h : c.isAlphanum = true) : isNameChar c = true := by
  have hascii : c.toNat < 0x80 := by
    obtain ⟨r, hr, hrc⟩ := Ranges.contain_iff.mp (contain_of_isAlphanum h)
    have hbound : ∀ r ∈ [(0x30, 0x39), (0x41, 0x5A), (0x61, 0x7A)], r.2 < 0x80 := by decide
    exact Nat.lt_of_le_of_lt hrc.2 (hbound r hr)
  simp [isNameChar, isAlphanumeric_of_isAlphanum h hascii]

theorem isWord_of_isVariableName {cs : List Char} (h : isVariableName cs = true) : IsWord cs := by
  cases cs with
  | nil => cases h
  | cons c cs =>
    rw [isVariableName, Bool.and_eq_true, List.all_eq_true] at h
    refine ⟨List.cons_ne_nil c cs, List.forall_mem_cons.mpr ⟨?_, fun d hd => ?_⟩⟩
    · exact isNameChar_of_isAlphanum (by simp [Char.isAlphanum, Char.isAlpha, h.1])
    · exact isNameChar_of_isAlphanum (by simp [Char.isAlphanum, h.2 d hd])

theorem Lays.word {ts : List Token} {blanks cs w : List Char}
    (hblanks : ∀ c ∈ blanks, isBlank c = true)
    (hw : IsWord w) (hcs : ∀ c ∈ cs.head?, isNameChar c = false) (h : Lays ts cs rest) :
    Lays (.word w :: ts) (blanks ++ (w ++ cs)) rest :=
  .cons hblanks ⟨hw, hcs⟩ h

theorem Lays.mark {ts : List Token} {cs : List Char} (m : Mark) (h : Lays ts cs rest) :
    Lays (.mark m :: ts) (m.char :: cs) rest :=
  .cons (List.forall_mem_nil _) trivial h

theorem Mark.not_isNameChar (m : Mark) : isNameChar m.char = false := by cases m <;> decide

theorem head_tailChars {args : List TypeExpr} :
    ∀ c ∈ (tailChars args ++ '>' :: rest).head?, isNameChar c = false := by
  cases args with
  | nil => rintro c ⟨⟩; exact Mark.greater.not_isNameChar
  | cons t ts => rintro c ⟨⟩; exact Mark.comma.not_isNameChar

mutual

/-- The text of a type has its tokens, also where something follows that is no part of a name. -/
theorem lays_chars : ∀ {t : TypeExpr} {blanks rest : List Char}, t.Spellable →
    (∀ c ∈ blanks, isBlank c = true) → (∀ c ∈ rest.head?, isNameChar c = false) →
      Lays t.tokens (blanks ++ (t.chars ++ rest)) rest
  | .primitive p, _, _, _, hblanks, hrest => .word hblanks (isWord_primitive p) hrest .nil
  | .named _ [], _, _, ht, hblanks, hrest => .word hblanks ht.1.1 hrest .nil
  | .named name (t :: ts), blanks, rest, ht, hblanks, hrest => by
    have hargs := lays_append.mpr
      ⟨_, lays_chars ht.2.1 (List.forall_mem_nil _) head_tailChars, lays_tailChars ht.2.2 rest⟩
    have hname :
        ∀ c ∈ ('<' :: (t.chars ++ (tailChars ts ++ '>' :: rest))).head?, isNameChar c = false := by
      rintro c ⟨⟩
      exact Mark.less.not_isNameChar
    have h := Lays.word hblanks ht.1.1 hname (.mark .less hargs)
    simpa [tokens] using h
  | .array item, blanks, rest, ht, hblanks, hrest => by
    have hitem : ∀ c ∈ ('[' :: ']' :: rest).head?, isNameChar c = false := by
      rintro c ⟨⟩
      exact Mark.opening.not_isNameChar
    have h := lays_append.mpr
      ⟨_, lays_chars ht.1 hblanks hitem, .mark .opening (.mark .closing .nil)⟩
    simpa [tokens] using h
  | .var _, _, _, ht, hblanks, hrest => .word hblanks (isWord_of_isVariableName ht) hrest .nil
  | .wildcard, _, _, _, hblanks, _ => .cons hblanks trivial .nil
  | .bounded upper, blanks, rest, ht, hblanks, hrest => by
    have hblank : ∀ c ∈ [' '], isBlank c = true := List.forall_mem_singleton.mpr (by decide)
    have h : Lays (.mark .question :: .bound :: upper.tokens)
        (blanks ++ ('?' :: ([' '] ++ ("extends".toList ++ ([' '] ++ (upper.chars ++ rest))))))
          rest :=
      .cons hblanks trivial (.cons hblank trivial (lays_chars ht hblank hrest))
    simpa [tokens] using h

theorem lays_tailChars : ∀ {args : List TypeExpr}, AllSpellable args → ∀ rest : List Char,
    Lays (tailTokens args ++ [.mark .greater]) (tailChars args ++ '>' :: rest) rest
  | [], _, _ => .mark .greater .nil
  | t :: ts, h, rest => by
    have hblank : ∀ c ∈ [' '], isBlank c = true := List.forall_mem_singleton.mpr (by decide)
    have hargs := lays_append.mpr ⟨_, lays_chars h.1 hblank head_tailChars, lays_tailChars h.2 rest⟩
    simpa [tailTokens, Mark.char] using Lays.mark .comma hargs

end

/-! ## Both together -/

/-- The types that are read back from their texts are those that some text spells. -/
theorem parse_text_iff : parse t.text = .ok t ↔ t.Spellable := by
  refine ⟨fun h => (parse_eq_ok_iff.mp h).1, fun ht => parse_eq_ok_iff.mpr ⟨ht, [], ?_, rfl⟩⟩
  have hend : ∀ c ∈ ([] : List Char).head?, isNameChar c = false := fun c hc => nomatch hc
  simpa [text] using lays_chars ht (List.forall_mem_nil _) hend

/-- A text is read just if it spells a type, and then as this type. What is read from a text is read
again from the text that it is written as, and nothing else is. -/
theorem reading_follows_the_grammar :
    (∀ s t, parse s = .ok t ↔ IsSpelling s t) ∧
      ∀ t : TypeExpr, parse t.text = .ok t ↔ ∃ s, parse s = .ok t := by
  refine ⟨fun s t => parse_eq_ok_iff.trans isSpelling_iff.symm, fun t => ⟨fun h => ⟨t.text, h⟩, ?_⟩⟩
  rintro ⟨s, h⟩
  exact parse_text_iff.mpr (parse_eq_ok_iff.mp h).1

end ServiceApi.TypeExpr
