import ServiceApi.Proofs.TypeExpr.Tokens

/-! # Reading follows the grammar

On a text that has a row of tokens the reader follows the row, and what it reads without a refusal
is such a row. The first is by recursion on the type, the second by recursion on the fuel. Three
units of fuel for each character are enough, since of three nested steps one takes a character at
least. -/

namespace ServiceApi.TypeExpr

open Text

variable {ts : List Token} {cs mid rest w : List Char} {t : TypeExpr} {c : Char} {f k k' : Nat}

/-! ## Brackets -/

theorem readBrackets_of_eat_none (h : eat '[' cs = none) : readBrackets k t cs = .ok (t, cs) := by
  cases k with
  | zero => rfl
  | succ k => rw [readBrackets, h]

theorem readBrackets_fuel (hk : cs.length ≤ k) (hk' : cs.length ≤ k') :
    readBrackets k t cs = readBrackets k' t cs := by
  induction k generalizing k' t cs with
  | zero =>
    have hcs : cs = [] := List.eq_nil_of_length_eq_zero (Nat.le_zero.mp hk)
    subst hcs
    rw [readBrackets_of_eat_none rfl, readBrackets_of_eat_none rfl]
  | succ k ih =>
    cases hopen : eat '[' cs with
    | none => rw [readBrackets_of_eat_none hopen, readBrackets_of_eat_none hopen]
    | some mid =>
      have hmid := length_lt_of_eat hopen
      cases k' with
      | zero => omega
      | succ k' =>
        rw [readBrackets, readBrackets, hopen]
        cases hclose : eat ']' mid with
        | none => simp only [hclose]
        | some rest =>
          have hrest := length_lt_of_eat hclose
          simp only [hclose]
          exact ih (by omega) (by omega)

/-! ## What the grammar has is read -/

/-- The text goes on behind a whole type, if it goes on at all. -/
def Closes (rest : List Char) : Prop := ∀ c ∈ (skipBlanks rest).head?, c = ',' ∨ c = '>'

/-- What follows is no part of the type: neither its arguments nor a bound nor brackets that the
bound it ends with would take. -/
def EndsBefore (t : TypeExpr) (rest : List Char) : Prop :=
  ∀ c ∈ (skipBlanks rest).head?, c = ',' ∨ c = '>' ∨ c = '[' ∧ ¬ t.IsBounded

theorem Closes.endsBefore (h : Closes rest) : t.EndsBefore rest :=
  fun c hc => (h c hc).imp_right Or.inl

theorem Closes.eat_eq_none (h : Closes rest) : eat '[' rest = none :=
  eat_eq_none_iff.mpr fun c hc => by rcases h c hc with rfl | rfl <;> decide

theorem EndsBefore.eat_eq_none (h : t.EndsBefore rest) : eat '<' rest = none :=
  eat_eq_none_iff.mpr fun c hc => by rcases h c hc with rfl | rfl | ⟨rfl, -⟩ <;> decide

theorem EndsBefore.after?_eq_none (h : t.EndsBefore rest) :
    after? "extends".toList (skipBlanks rest) = none := by
  rw [EndsBefore] at h
  refine Option.eq_none_iff_forall_ne_some.mpr fun cs' hcs => ?_
  rw [after?_eq_some_iff] at hcs
  rw [hcs] at h
  rcases h 'e' rfl with h | h | ⟨h, -⟩ <;> exact absurd h (by decide)

theorem closes_tail : ∀ {args : List TypeExpr},
    Lays (tailTokens args ++ [.mark .greater]) mid rest → Closes mid
  | [], h => by
    obtain ⟨_, heat, -⟩ := lays_mark_iff.mp h
    rw [Closes, eat_eq_some_iff.mp heat]
    rintro c ⟨⟩
    exact Or.inr rfl
  | _ :: _, h => by
    obtain ⟨_, heat, -⟩ := lays_mark_iff.mp h
    rw [Closes, eat_eq_some_iff.mp heat]
    rintro c ⟨⟩
    exact Or.inl rfl

theorem readType_of_base (h : readBase (f + 1) cs = .ok (t, rest)) (hf : rest.length ≤ f + 1)
    (hk : rest.length ≤ k) : readType (f + 2) cs = readBrackets k t rest := by
  rw [readType, h]
  exact readBrackets_fuel hf hk

theorem readBase_of_name {name : String} (h : readName cs = .ok (name.toList, mid)) :
    readBase (f + 1) cs = match Primitive.ofName? name with
      | some p => .ok (.primitive p, mid)
      | none =>
        if isVariableName name.toList then .ok (.var name, mid)
        else
          match eat '<' mid with
          | none => .ok (.raw name, mid)
          | some cs => (readArgs f cs).bind fun r => .ok (.named name r.1, r.2) := by
  have hquestion : eat '?' cs = none := by
    obtain ⟨hskip, ⟨hne, hw⟩, -⟩ := readName_eq_ok_iff.mp h
    obtain ⟨d, ds, hd⟩ := List.exists_cons_of_ne_nil hne
    rw [eat_eq_none_iff, hskip, hd]
    rintro c ⟨⟩ rfl
    exact absurd (hw '?' (hd ▸ List.mem_cons_self)) (by decide)
  rw [readBase, hquestion, h]
  cases hprimitive : Primitive.ofName? name with
  | some p => simp only [bind, Except.bind, pure, Except.pure, String.ofList_toList, hprimitive]
  | none =>
    cases hless : eat '<' mid <;>
      simp only [bind, Except.bind, pure, Except.pure, String.ofList_toList, hprimitive, hless]

theorem length_lt_of_readName (h : readName cs = .ok (w, rest)) : rest.length < cs.length := by
  obtain ⟨hskip, ⟨hne, -⟩, -⟩ := readName_eq_ok_iff.mp h
  have hle := skipBlanks_length_le cs
  have hpos := List.length_pos_iff.mpr hne
  rw [hskip, List.length_append] at hle
  omega

theorem length_lt_of_bound (h : after? "extends".toList (skipBlanks cs) = some rest) :
    rest.length < cs.length := by
  have hle := skipBlanks_length_le cs
  rw [after?_eq_some_iff.mp h, List.length_append] at hle
  have hpos : 0 < "extends".toList.length := by decide
  omega

theorem ofName?_of_isVariableName {name : String} (h : isVariableName name.toList = true) :
    Primitive.ofName? name = none := by
  refine Option.eq_none_iff_forall_ne_some.mpr fun p hp => ?_
  have hname : p.name = name := by simpa using List.find?_some hp
  rw [← hname] at h
  cases p <;> exact absurd h (by decide)

theorem readName_of_lays (h : Lays [.word w] cs rest) : readName cs = .ok (w, rest) := by
  obtain ⟨mid, hread, hrest⟩ := lays_word_iff.mp h
  rwa [lays_nil.mp hrest] at hread

mutual

theorem readType_of_lays : ∀ {t : TypeExpr} {cs rest : List Char} {f k : Nat}, t.Spellable →
    Lays t.tokens cs rest → t.EndsBefore rest → 3 * cs.length + 2 ≤ f → rest.length ≤ k →
      readType f cs = readBrackets k t rest
  | .primitive p, cs, rest, f, k, _, h, _, hf, hk => by
    obtain ⟨f, rfl⟩ : ∃ g, f = g + 2 := ⟨f - 2, by omega⟩
    have hlength := h.length_le
    refine readType_of_base ?_ (by omega) hk
    rw [readBase_of_name (readName_of_lays h), Primitive.ofName?_name]
  | .named name [], cs, rest, f, k, ht, h, hends, hf, hk => by
    obtain ⟨f, rfl⟩ : ∃ g, f = g + 2 := ⟨f - 2, by omega⟩
    obtain ⟨⟨-, hprimitive, hvar⟩, -⟩ := ht
    have hlength := h.length_le
    refine readType_of_base ?_ (by omega) hk
    rw [readBase_of_name (readName_of_lays h), hprimitive, hvar, hends.eat_eq_none]
    rfl
  | .named name (t :: ts), cs, rest, f, k, ht, h, hends, hf, hk => by
    obtain ⟨⟨-, hprimitive, hvar⟩, ht, hts⟩ := ht
    have hlength := h.length_le
    obtain ⟨next, hname, h⟩ := lays_word_iff.mp h
    obtain ⟨start, hless, h⟩ := lays_mark_iff.mp h
    rw [List.append_assoc] at h
    have hnext := length_lt_of_readName hname
    have hstart := length_lt_of_eat hless
    obtain ⟨f, rfl⟩ : ∃ g, f = g + 3 := ⟨f - 3, by omega⟩
    obtain ⟨mid, hfirst, htail⟩ := lays_append.mp h
    have hclose := closes_tail htail
    have hmid := hfirst.length_le
    have hread : readType f start = .ok (t, mid) :=
      (readType_of_lays ht hfirst hclose.endsBefore (by omega) (Nat.le_refl _)).trans
        (readBrackets_of_eat_none hclose.eat_eq_none)
    refine readType_of_base ?_ (by omega) hk
    rw [readBase_of_name hname, hprimitive, hvar]
    simp only [Mark.char] at hless
    simp only [Bool.false_eq_true, if_false, hless, readArgs_of_lays hts hread htail (by omega)]
    rfl
  | .array item, cs, rest, f, k, ht, h, hends, hf, hk => by
    obtain ⟨hitem, hplain⟩ := ht
    obtain ⟨mid, h, hbrackets⟩ := lays_append.mp h
    obtain ⟨inside, hopen, hbrackets⟩ := lays_mark_iff.mp hbrackets
    obtain ⟨rest', hclose, hrest⟩ := lays_mark_iff.mp hbrackets
    rw [lays_nil.mp hrest] at hclose
    have hends : item.EndsBefore mid := by
      rw [EndsBefore, eat_eq_some_iff.mp hopen]
      rintro c ⟨⟩
      exact Or.inr (Or.inr ⟨rfl, hplain⟩)
    have hinside := length_lt_of_eat hopen
    have hrest := length_lt_of_eat hclose
    rw [readType_of_lays (k := mid.length + 1) hitem h hends hf (by omega), readBrackets]
    simp only [Mark.char] at hopen hclose
    simp only [hopen, hclose]
    exact readBrackets_fuel (by omega) hk
  | .var name, cs, rest, f, k, ht, h, _, hf, hk => by
    obtain ⟨f, rfl⟩ : ∃ g, f = g + 2 := ⟨f - 2, by omega⟩
    have hlength := h.length_le
    refine readType_of_base ?_ (by omega) hk
    rw [Spellable] at ht
    rw [readBase_of_name (readName_of_lays h), ofName?_of_isVariableName ht, ht]
    rfl
  | .wildcard, cs, rest, f, k, _, h, hends, hf, hk => by
    obtain ⟨f, rfl⟩ : ∃ g, f = g + 2 := ⟨f - 2, by omega⟩
    have hlength := h.length_le
    obtain ⟨mid, hquestion, hrest⟩ := lays_mark_iff.mp h
    rw [lays_nil.mp hrest] at hquestion
    refine readType_of_base ?_ (by omega) hk
    simp only [Mark.char] at hquestion
    rw [readBase, hquestion]
    simp only [hends.after?_eq_none]
    rfl
  | .bounded upper, cs, rest, f, k, ht, h, hends, hf, hk => by
    obtain ⟨f, rfl⟩ : ∃ g, f = g + 2 := ⟨f - 2, by omega⟩
    have hlength := h.length_le
    obtain ⟨mid, hquestion, h⟩ := lays_mark_iff.mp h
    obtain ⟨start, hbound, h⟩ := lays_bound_iff.mp h
    have hmid := length_lt_of_eat hquestion
    have hstart := length_lt_of_bound hbound
    have hclose : Closes rest := fun c hc => (hends c hc).imp_right fun h => h.resolve_right
      fun h => h.2 trivial
    have hread : readType f start = .ok (upper, rest) :=
      (readType_of_lays (t := upper) ht h hclose.endsBefore (by omega) (Nat.le_refl _)).trans
        (readBrackets_of_eat_none hclose.eat_eq_none)
    refine readType_of_base ?_ (by omega) hk
    simp only [Mark.char] at hquestion
    rw [readBase, hquestion]
    simp only [hbound, hread]
    rfl

theorem readArgs_of_lays :
    ∀ {args : List TypeExpr} {t : TypeExpr} {cs mid rest : List Char} {f : Nat},
    AllSpellable args → readType f cs = .ok (t, mid) →
      Lays (tailTokens args ++ [.mark .greater]) mid rest →
      3 * mid.length ≤ f → readArgs (f + 1) cs = .ok (t :: args, rest)
  | [], t, cs, mid, rest, f, _, ht, h, hf => by
    obtain ⟨rest', hgreater, hrest⟩ := lays_mark_iff.mp h
    rw [lays_nil.mp hrest] at hgreater
    have hcomma : eat ',' mid = none := by
      rw [eat_eq_none_iff, eat_eq_some_iff.mp hgreater]
      rintro c ⟨⟩
      decide
    simp only [Mark.char] at hgreater
    rw [readArgs, ht]
    simp only [bind, Except.bind, hcomma, hgreater]
    rfl
  | u :: us, t, cs, mid, rest, f, hargs, ht, h, hf => by
    rw [tailTokens, List.cons_append, List.append_assoc] at h
    obtain ⟨start, hcomma, h⟩ := lays_mark_iff.mp h
    obtain ⟨next, hfirst, htail⟩ := lays_append.mp h
    have hclose := closes_tail htail
    have hstart := length_lt_of_eat hcomma
    have hnext := hfirst.length_le
    obtain ⟨f, rfl⟩ : ∃ g, f = g + 1 := ⟨f - 1, by omega⟩
    have hread : readType f start = .ok (u, next) :=
      (readType_of_lays hargs.1 hfirst hclose.endsBefore (by omega) (Nat.le_refl _)).trans
        (readBrackets_of_eat_none hclose.eat_eq_none)
    simp only [Mark.char] at hcomma
    rw [readArgs, ht]
    simp only [bind, Except.bind, hcomma, readArgs_of_lays hargs.2 hread htail (by omega)]
    rfl

end

/-! ## What is read is in the grammar -/

theorem spellable_of_readBrackets {t' : TypeExpr} (h : readBrackets k t mid = .ok (t', rest))
    (hk : mid.length ≤ k) (ht : t.Spellable) (hlays : Lays t.tokens cs mid)
    (hbounded : t.IsBounded → eat '[' mid = none) :
    t'.Spellable ∧ Lays t'.tokens cs rest ∧ eat '[' rest = none := by
  induction k generalizing t mid with
  | zero =>
    cases h
    rw [List.eq_nil_of_length_eq_zero (Nat.le_zero.mp hk)] at hlays ⊢
    exact ⟨ht, hlays, rfl⟩
  | succ k ih =>
    cases hopen : eat '[' mid with
    | none =>
      cases (readBrackets_of_eat_none hopen).symm.trans h
      exact ⟨ht, hlays, hopen⟩
    | some inside =>
      rw [readBrackets, hopen] at h
      cases hclose : eat ']' inside with
      | none => simp only [hclose] at h; cases h
      | some next =>
        simp only [hclose] at h
        have hinside := length_lt_of_eat hopen
        have hnext := length_lt_of_eat hclose
        have hplain : ¬ t.IsBounded := fun hb => by
          rw [hbounded hb] at hopen
          cases hopen
        have hbrackets : Lays [.mark .opening, .mark .closing] mid next :=
          lays_mark_iff.mpr ⟨inside, hopen, lays_mark_iff.mpr ⟨next, hclose, .nil⟩⟩
        exact ih h (by omega) ⟨ht, hplain⟩ (lays_append.mpr ⟨mid, hlays, hbrackets⟩) False.elim

mutual

theorem spellable_of_readType : ∀ {f : Nat} {cs rest : List Char} {t : TypeExpr},
    3 * cs.length + 2 ≤ f →
    readType f cs = .ok (t, rest) → t.Spellable ∧ Lays t.tokens cs rest ∧ eat '[' rest = none
  | 0, _, _, _, hf, _ => by omega
  | f + 1, cs, rest, t, hf, h => by
    rw [readType] at h
    cases hbase : readBase f cs with
    | error e => rw [hbase] at h; cases h
    | ok r =>
      obtain ⟨base, mid⟩ := r
      rw [hbase] at h
      obtain ⟨hspellable, hlays, hbounded⟩ := spellable_of_readBase (by omega) hbase
      have hmid := hlays.length_le
      exact spellable_of_readBrackets h (by omega) hspellable hlays hbounded

theorem spellable_of_readBase : ∀ {f : Nat} {cs rest : List Char} {t : TypeExpr},
    3 * cs.length + 1 ≤ f → readBase f cs = .ok (t, rest) →
      t.Spellable ∧ Lays t.tokens cs rest ∧ (t.IsBounded → eat '[' rest = none)
  | 0, _, _, _, hf, _ => by omega
  | f + 1, cs, rest, t, hf, h => by
    cases hquestion : eat '?' cs with
    | some mid =>
      have hmid := length_lt_of_eat hquestion
      rw [readBase, hquestion] at h
      cases hbound : after? "extends".toList (skipBlanks mid) with
      | none =>
        simp only [hbound] at h
        cases h
        exact ⟨trivial, lays_mark_iff.mpr ⟨_, hquestion, .nil⟩, False.elim⟩
      | some start =>
        simp only [hbound] at h
        have hstart := length_lt_of_bound hbound
        cases hupper : readType f start with
        | error e => rw [hupper] at h; cases h
        | ok r =>
          obtain ⟨upper, rest'⟩ := r
          rw [hupper] at h
          cases h
          obtain ⟨hspellable, hlays, hend⟩ := spellable_of_readType (by omega) hupper
          exact ⟨hspellable,
            lays_mark_iff.mpr ⟨mid, hquestion, lays_bound_iff.mpr ⟨start, hbound, hlays⟩⟩,
            fun _ => hend⟩
    | none =>
      cases hname : readName cs with
      | error e => rw [readBase, hquestion, hname] at h; cases h
      | ok r =>
        obtain ⟨w, mid⟩ := r
        obtain ⟨name, rfl⟩ : ∃ name : String, w = name.toList := ⟨String.ofList w, by simp⟩
        rw [readBase_of_name hname] at h
        have hword : Lays [.word name.toList] cs mid := lays_word_iff.mpr ⟨mid, hname, .nil⟩
        have hmid := length_lt_of_readName hname
        split at h
        · rename_i p hp
          cases h
          obtain rfl : p.name = name := by simpa using List.find?_some hp
          exact ⟨trivial, hword, False.elim⟩
        · rename_i hprimitive
          split at h
          · cases h
            exact ⟨‹_›, hword, False.elim⟩
          · rename_i hvar
            have hclass : IsClassName name :=
              ⟨(readName_eq_ok_iff.mp hname).2.1, hprimitive, Bool.eq_false_iff.mpr hvar⟩
            split at h
            · cases h
              exact ⟨⟨hclass, trivial⟩, hword, False.elim⟩
            · rename_i start hless
              have hstart := length_lt_of_eat hless
              cases hargs : readArgs f start with
              | error e => rw [hargs] at h; cases h
              | ok r =>
                obtain ⟨args, rest'⟩ := r
                rw [hargs] at h
                cases h
                obtain ⟨first, others, rfl, hspellable, hlays⟩ :=
                  spellable_of_readArgs (by omega) hargs
                exact ⟨⟨hclass, hspellable⟩,
                  lays_word_iff.mpr ⟨mid, hname, lays_mark_iff.mpr ⟨start, hless, hlays⟩⟩,
                    False.elim⟩

theorem spellable_of_readArgs : ∀ {f : Nat} {cs rest : List Char} {args : List TypeExpr},
    3 * cs.length + 3 ≤ f → readArgs f cs = .ok (args, rest) →
      ∃ t us, args = t :: us ∧ AllSpellable args ∧
        Lays (t.tokens ++ tailTokens us ++ [.mark .greater]) cs rest
  | 0, _, _, _, hf, _ => by omega
  | f + 1, cs, rest, args, hf, h => by
    rw [readArgs] at h
    cases hfirst : readType f cs with
    | error e => rw [hfirst] at h; cases h
    | ok r =>
      obtain ⟨t, mid⟩ := r
      rw [hfirst] at h
      obtain ⟨ht, hlays, -⟩ := spellable_of_readType (by omega) hfirst
      have hmid := hlays.length_le
      simp only [bind, Except.bind] at h
      cases hcomma : eat ',' mid with
      | some start =>
        simp only [hcomma] at h
        have hstart := length_lt_of_eat hcomma
        cases hargs : readArgs f start with
        | error e => rw [hargs] at h; cases h
        | ok r =>
          obtain ⟨others, rest'⟩ := r
          rw [hargs] at h
          cases h
          obtain ⟨u, us, rfl, hus, htail⟩ := spellable_of_readArgs (by omega) hargs
          refine ⟨t, u :: us, rfl, ⟨ht, hus⟩, ?_⟩
          rw [List.append_assoc]
          exact lays_append.mpr ⟨mid, hlays, lays_mark_iff.mpr ⟨start, hcomma, htail⟩⟩
      | none =>
        simp only [hcomma] at h
        cases hgreater : eat '>' mid with
        | none => simp only [hgreater] at h; cases h
        | some next =>
          simp only [hgreater] at h
          cases h
          refine ⟨t, [], rfl, ⟨ht, trivial⟩, ?_⟩
          rw [List.append_assoc]
          exact lays_append.mpr ⟨mid, hlays, lays_mark_iff.mpr ⟨_, hgreater, .nil⟩⟩

end

end ServiceApi.TypeExpr
