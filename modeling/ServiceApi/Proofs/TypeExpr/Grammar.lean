import ServiceApi.TypeExpr.Parser
import ServiceApi.TypeExpr.Printer

/-! # The grammar of type expressions

A text is a row of tokens with blanks around them, and a row of tokens spells a type:

    type = base ("[" "]")*
    base = "?" | "?" "extends" type | primitive | variable | name | name "<" type ("," type)* ">"

Brackets after a bound belong to the bound, so every row spells one type at most. `spells_iff` says
which types are spelled, and by which row. -/

namespace ServiceApi.TypeExpr

/-! ## Tokens -/

inductive Mark where
  | question | less | comma | greater | opening | closing

def Mark.char : Mark → Char
  | question => '?'
  | less => '<'
  | comma => ','
  | greater => '>'
  | opening => '['
  | closing => ']'

inductive Token where
  | mark (m : Mark)
  /-- What announces the bound of a wildcard. -/
  | bound
  | word (cs : List Char)

def Token.chars : Token → List Char
  | mark m => [m.char]
  | bound => "extends".toList
  | word cs => cs

@[simp] theorem Token.chars_mark (m : Mark) : (Token.mark m).chars = [m.char] := rfl

@[simp] theorem Token.chars_bound : Token.bound.chars = "extends".toList := rfl

@[simp] theorem Token.chars_word (cs : List Char) : (Token.word cs).chars = cs := rfl

/-- A run of characters that names are made of. -/
def IsWord (cs : List Char) : Prop := cs ≠ [] ∧ ∀ c ∈ cs, isNameChar c = true

/-- The token may stand in front of `cs`. A word goes on as far as it can. -/
def Token.Stands : Token → List Char → Prop
  | word w, cs => IsWord w ∧ ∀ c ∈ cs.head?, isNameChar c = false
  | _, _ => True

/-- The text has the tokens in a row, any blanks before each, and then the rest. -/
inductive Lays : List Token → List Char → List Char → Prop
  | nil {cs : List Char} : Lays [] cs cs
  | cons {tok : Token} {ts : List Token} {blanks cs rest : List Char} :
      (∀ c ∈ blanks, Text.isBlank c = true) → tok.Stands cs → Lays ts cs rest →
        Lays (tok :: ts) (blanks ++ (tok.chars ++ cs)) rest

/-! ## Rows of tokens and what they spell -/

/-- A word that is not taken by a primitive or a variable. -/
def IsClassName (name : String) : Prop :=
  IsWord name.toList ∧ Primitive.ofName? name = none ∧ isVariableName name.toList = false

/-- The type with a pair of brackets behind its text: an array, or a wildcard whose bound is one. -/
def inBrackets : TypeExpr → TypeExpr
  | .bounded upper => .bounded upper.inBrackets
  | t => .array t

mutual

inductive Spells : List Token → TypeExpr → Prop
  | base {ts : List Token} {t : TypeExpr} : SpellsBase ts t → Spells ts t
  | brackets {ts : List Token} {t : TypeExpr} : Spells ts t →
      Spells (ts ++ [.mark .opening, .mark .closing]) t.inBrackets

inductive SpellsBase : List Token → TypeExpr → Prop
  | wildcard : SpellsBase [.mark .question] .wildcard
  | bounded {ts : List Token} {t : TypeExpr} : Spells ts t →
      SpellsBase (.mark .question :: .bound :: ts) (.bounded t)
  | primitive (p : Primitive) : SpellsBase [.word p.name.toList] (.primitive p)
  | var {name : String} : isVariableName name.toList = true →
      SpellsBase [.word name.toList] (.var name)
  | raw {name : String} : IsClassName name → SpellsBase [.word name.toList] (.raw name)
  | generic {name : String} {ts : List Token} {args : List TypeExpr} : IsClassName name →
      SpellsArgs ts args →
        SpellsBase (.word name.toList :: .mark .less :: (ts ++ [.mark .greater])) (.named name args)

inductive SpellsArgs : List Token → List TypeExpr → Prop
  | one {ts : List Token} {t : TypeExpr} : Spells ts t → SpellsArgs ts [t]
  | more {ts us : List Token} {t : TypeExpr} {args : List TypeExpr} : Spells ts t →
      SpellsArgs us args → SpellsArgs (ts ++ .mark .comma :: us) (t :: args)

end

/-- The text spells the type, with blanks anywhere around its tokens. -/
def IsSpelling (s : String) (t : TypeExpr) : Prop :=
  ∃ ts rest, Spells ts t ∧ Lays ts s.toList rest ∧ ∀ c ∈ rest, Text.isBlank c = true

/-! ## The types that have a spelling -/

/-- A wildcard with a bound. -/
def IsBounded : TypeExpr → Prop
  | .bounded _ => True
  | _ => False

mutual

/-- The names are class names and variable names, and no array has a wildcard with a bound for its
items: its brackets would go to the bound. -/
def Spellable : TypeExpr → Prop
  | .primitive _ => True
  | .named name args => IsClassName name ∧ AllSpellable args
  | .array item => item.Spellable ∧ ¬ item.IsBounded
  | .var name => isVariableName name.toList = true
  | .wildcard => True
  | .bounded upper => upper.Spellable

def AllSpellable : List TypeExpr → Prop
  | [] => True
  | t :: ts => t.Spellable ∧ AllSpellable ts

end

instance (cs : List Char) : Decidable (IsWord cs) :=
  decidable_of_iff (cs ≠ [] ∧ cs.all isNameChar = true) (and_congr_right fun _ => List.all_eq_true)

instance (name : String) : Decidable (IsClassName name) := inferInstanceAs (Decidable (_ ∧ _))

instance : DecidablePred IsBounded
  | .bounded _ => .isTrue trivial
  | .primitive _ | .named _ _ | .array _ | .var _ | .wildcard => .isFalse id

mutual

def decideSpellable : ∀ t : TypeExpr, Decidable t.Spellable
  | .primitive _ => .isTrue trivial
  | .named _ args => @instDecidableAnd _ _ inferInstance (decideAllSpellable args)
  | .array item => @instDecidableAnd _ _ (decideSpellable item) inferInstance
  | .var name => inferInstanceAs (Decidable (isVariableName name.toList = true))
  | .wildcard => .isTrue trivial
  | .bounded upper => decideSpellable upper

def decideAllSpellable : ∀ ts : List TypeExpr, Decidable (AllSpellable ts)
  | [] => .isTrue trivial
  | t :: ts => @instDecidableAnd _ _ (decideSpellable t) (decideAllSpellable ts)

end

instance : DecidablePred Spellable := decideSpellable

mutual

/-- The row of tokens that spells the type. -/
def tokens : TypeExpr → List Token
  | .primitive p => [.word p.name.toList]
  | .named name args =>
    match args with
    | [] => [.word name.toList]
    | t :: ts => .word name.toList :: .mark .less :: (t.tokens ++ tailTokens ts ++ [.mark .greater])
  | .array item => item.tokens ++ [.mark .opening, .mark .closing]
  | .var name => [.word name.toList]
  | .wildcard => [.mark .question]
  | .bounded upper => .mark .question :: .bound :: upper.tokens

def tailTokens : List TypeExpr → List Token
  | [] => []
  | t :: ts => .mark .comma :: (t.tokens ++ tailTokens ts)

end

theorem tokens_inBrackets : ∀ t : TypeExpr,
    t.inBrackets.tokens = t.tokens ++ [.mark .opening, .mark .closing]
  | .bounded upper => by
    rw [inBrackets, tokens, tokens_inBrackets upper, tokens, List.cons_append, List.cons_append]
  | .primitive _ | .named _ _ | .array _ | .var _ | .wildcard => rfl

theorem Spellable.inBrackets : ∀ {t : TypeExpr}, t.Spellable → t.inBrackets.Spellable
  | .bounded upper, h => Spellable.inBrackets (t := upper) h
  | .primitive _, h | .named _ _, h | .array _, h | .var _, h | .wildcard, h => ⟨h, id⟩

theorem inBrackets_of_not_isBounded {t : TypeExpr} (h : ¬ t.IsBounded) :
    t.inBrackets = .array t := by
  cases t with
  | bounded upper => exact absurd trivial h
  | _ => rfl

mutual

theorem Spells.spellable {ts : List Token} {t : TypeExpr} : Spells ts t →
    t.Spellable ∧ ts = t.tokens
  | .base h => h.spellable
  | .brackets h => by
    obtain ⟨ht, rfl⟩ := h.spellable
    exact ⟨ht.inBrackets, (tokens_inBrackets _).symm⟩

theorem SpellsBase.spellable {ts : List Token} {t : TypeExpr} :
    SpellsBase ts t → t.Spellable ∧ ts = t.tokens
  | .wildcard => by simp [Spellable, tokens]
  | .bounded h => by
    obtain ⟨ht, rfl⟩ := h.spellable
    exact ⟨ht, rfl⟩
  | .primitive p => by simp [Spellable, tokens]
  | .var h => ⟨h, rfl⟩
  | .raw h => ⟨⟨h, trivial⟩, rfl⟩
  | .generic hname h => by
    obtain ⟨t, args, rfl, hargs, rfl⟩ := h.spellable
    exact ⟨⟨hname, hargs⟩, rfl⟩

theorem SpellsArgs.spellable {ts : List Token} {args : List TypeExpr} :
    SpellsArgs ts args → ∃ t us, args = t :: us ∧ AllSpellable args ∧ ts = t.tokens ++ tailTokens us
  | .one h => by
    obtain ⟨ht, rfl⟩ := h.spellable
    exact ⟨_, [], rfl, ⟨ht, trivial⟩, (List.append_nil _).symm⟩
  | .more h hargs => by
    obtain ⟨ht, rfl⟩ := h.spellable
    obtain ⟨u, us, rfl, hus, rfl⟩ := hargs.spellable
    exact ⟨_, u :: us, rfl, ⟨ht, hus⟩, rfl⟩

end

mutual

theorem Spellable.spells : ∀ {t : TypeExpr}, t.Spellable → Spells t.tokens t
  | .primitive p, _ => .base (.primitive p)
  | .named _ [], h => .base (.raw h.1)
  | .named _ (_ :: _), h => .base (.generic h.1 (AllSpellable.spells h.2.2 h.2.1.spells))
  | .array item, h => by
    rw [Spellable] at h
    rw [tokens, ← inBrackets_of_not_isBounded h.2]
    exact .brackets h.1.spells
  | .var _, h => .base (.var h)
  | .wildcard, _ => .base .wildcard
  | .bounded _, h => .base (.bounded (Spellable.spells h))

theorem AllSpellable.spells : ∀ {ts : List TypeExpr}, AllSpellable ts →
    ∀ {us : List Token} {t : TypeExpr}, Spells us t → SpellsArgs (us ++ tailTokens ts) (t :: ts)
  | [], _, us, _, ht => by
    rw [tailTokens, List.append_nil]
    exact .one ht
  | _ :: _, h, _, _, ht => .more ht (AllSpellable.spells h.2 h.1.spells)

end

/-- A spellable type has one row of tokens, and other types have none. -/
theorem spells_iff {ts : List Token} {t : TypeExpr} : Spells ts t ↔ t.Spellable ∧ ts = t.tokens :=
  ⟨Spells.spellable, fun ⟨h, hts⟩ => hts ▸ h.spells⟩

/-! ## Laying out tokens -/

section

variable {ts us : List Token} {cs rest : List Char}

theorem lays_append : Lays (ts ++ us) cs rest ↔ ∃ mid, Lays ts cs mid ∧ Lays us mid rest := by
  constructor
  · intro h
    induction ts generalizing cs with
    | nil => exact ⟨cs, .nil, h⟩
    | cons tok ts ih =>
      cases h with
      | cons hblanks hstands h =>
        obtain ⟨mid, hts, hus⟩ := ih h
        exact ⟨mid, .cons hblanks hstands hts, hus⟩
  · rintro ⟨mid, hts, hus⟩
    induction hts with
    | nil => exact hus
    | cons hblanks hstands _ ih => exact .cons hblanks hstands (ih hus)

theorem lays_nil : Lays [] cs rest ↔ cs = rest :=
  ⟨fun h => by cases h; rfl, fun h => h ▸ .nil⟩

end

end ServiceApi.TypeExpr
