import ServiceApi.Json.Printer
import Mathlib.Data.List.TakeWhile

/-! # Compact texts are read one way

The compact text of a value without literals says which value it is, and where it ends: whatever
comes after a text, as long as it does not go on with a numeral, is told from the text itself. So
texts that are written one after the other can be taken apart again. -/

namespace ServiceApi.Json

/-- Somewhere in the value there is a number that is written as it stands. -/
inductive HasReal : Json → Prop
  | here (literal : String) : HasReal (.real literal)
  | field {fields : List (String × Json)} {e : String × Json} :
      e ∈ fields → HasReal e.2 → HasReal (.obj fields)
  | item {items : List Json} {v : Json} : v ∈ items → HasReal v → HasReal (.arr items)

def RealFree (v : Json) : Prop := ¬ v.HasReal

@[simp] theorem realFree_null : RealFree .null := by rintro ⟨⟩

@[simp] theorem realFree_bool (b : Bool) : RealFree (.bool b) := by rintro ⟨⟩

@[simp] theorem realFree_int (n : Int) : RealFree (.int n) := by rintro ⟨⟩

@[simp] theorem realFree_str (text : String) : RealFree (.str text) := by rintro ⟨⟩

theorem not_realFree_real (literal : String) : ¬ RealFree (.real literal) :=
  fun h => h (.here literal)

@[simp] theorem realFree_arr (items : List Json) :
    RealFree (.arr items) ↔ ∀ v ∈ items, v.RealFree := by
  constructor
  · exact fun h v hv hr => h (.item hv hr)
  · rintro h (_ | _ | ⟨hv, hr⟩)
    exact h _ hv hr

@[simp] theorem realFree_obj (fields : List (String × Json)) :
    RealFree (.obj fields) ↔ ∀ e ∈ fields, e.2.RealFree := by
  constructor
  · exact fun h e he hr => h (.field he hr)
  · rintro h (_ | ⟨he, hr⟩ | _)
    exact h _ he hr

/-! ## Strings -/

def hexValue (c : Char) : Nat := if c.isDigit then c.toNat - 48 else c.toNat - 87

/-- Reads one character of a quoted string; nothing at its end. -/
def unescape : List Char → Option (Char × List Char)
  | '\\' :: '"' :: s => some ('"', s)
  | '\\' :: '\\' :: s => some ('\\', s)
  | '\\' :: 'n' :: s => some ('\n', s)
  | '\\' :: 'r' :: s => some ('\r', s)
  | '\\' :: 't' :: s => some ('\t', s)
  | '\\' :: 'b' :: s => some (Char.ofNat 8, s)
  | '\\' :: 'f' :: s => some (Char.ofNat 12, s)
  | '\\' :: 'u' :: '0' :: '0' :: high :: low :: s =>
    some (Char.ofNat (16 * hexValue high + hexValue low), s)
  | '"' :: _ => none
  | c :: s => some (c, s)
  | [] => none

theorem hexValue_hexChar : ∀ n < 32,
    16 * hexValue (hexChar (n / 16)) + hexValue (hexChar (n % 16)) = n := by decide

theorem unescape_escapeChar (c : Char) (s : List Char) :
    unescape (escapeChar c ++ s) = some (c, s) := by
  unfold escapeChar
  split
  · rfl
  · rfl
  · rfl
  · rfl
  · rfl
  · rename_i hquote hslash _ _ _
    split
    · rename_i h
      rw [← Char.ofNat_toNat c, h]
      rfl
    · split
      · rename_i h
        rw [← Char.ofNat_toNat c, h]
        rfl
      · split
        · rename_i h
          simp only [List.cons_append, List.nil_append, unescape,
            hexValue_hexChar _ h, Char.ofNat_toNat]
        · simp only [List.cons_append, List.nil_append]
          unfold unescape
          split
          all_goals simp_all

theorem escape_delimits : ∀ {cs ds s t : List Char},
    cs.flatMap escapeChar ++ '"' :: s = ds.flatMap escapeChar ++ '"' :: t → cs = ds ∧ s = t
  | [], [], s, t, h => by
    exact ⟨rfl, (List.cons.inj h).2⟩
  | [], d :: ds, s, t, h => by
    have hread := congrArg unescape h
    rw [List.flatMap_cons, List.append_assoc, unescape_escapeChar] at hread
    cases hread
  | c :: cs, [], s, t, h => by
    have hread := congrArg unescape h
    rw [List.flatMap_cons, List.append_assoc, unescape_escapeChar] at hread
    cases hread
  | c :: cs, d :: ds, s, t, h => by
    have hread := congrArg unescape h
    rw [List.flatMap_cons, List.flatMap_cons, List.append_assoc, List.append_assoc,
      unescape_escapeChar, unescape_escapeChar] at hread
    obtain ⟨rfl, hrest⟩ := Prod.mk.inj (Option.some.inj hread)
    obtain ⟨rfl, hs⟩ := escape_delimits hrest
    exact ⟨rfl, hs⟩

theorem quote_delimits {a b : String} {s t : List Char}
    (h : (quote a).toList ++ s = (quote b).toList ++ t) : a = b ∧ s = t := by
  simp only [quote, String.toList_ofList, List.cons_append, List.append_assoc,
    List.nil_append, List.cons.injEq, true_and] at h
  obtain ⟨hchars, hs⟩ := escape_delimits h
  exact ⟨String.toList_inj.mp hchars, hs⟩

/-! ## Numerals -/

def isNumeral (c : Char) : Bool := c.isDigit || c == '-'

/-- What comes next does not go on with a numeral. -/
def Stops (s : List Char) : Prop := ∀ c ∈ s.head?, isNumeral c = false

theorem stops_cons {c : Char} (hc : isNumeral c = false) (s : List Char) : Stops (c :: s) := by
  rintro d hd
  cases hd
  exact hc

theorem toList_repr_int (n : Int) :
    (toString n).toList = (if 0 ≤ n then [] else ['-']) ++ Nat.toDigits 10 n.natAbs := by
  rw [show toString n = n.repr from rfl, Int.repr_eq_if]
  by_cases h : 0 ≤ n
  · rw [if_pos h, if_pos h, Nat.repr_eq_ofList_toDigits, String.toList_ofList, List.nil_append]
    congr 1
    omega
  · rw [if_neg h, if_neg h, Nat.repr_eq_ofList_toDigits, String.toList_append,
      show (-n).toNat = n.natAbs by omega, String.toList_ofList (l := Nat.toDigits 10 n.natAbs)]
    rfl

theorem digits_inj {n m : Nat} (h : Nat.toDigits 10 n = Nat.toDigits 10 m) : n = m := by
  rw [← Nat.ofDigitChars_ten_toDigits (n := n), h, Nat.ofDigitChars_ten_toDigits]

theorem minus_not_mem_digits (n : Nat) : '-' ∉ Nat.toDigits 10 n := fun h =>
  absurd (Nat.isDigit_of_mem_toDigits (by omega) (by omega) h) (by decide)

theorem int_of_text {n m : Int} (h : (toString n).toList = (toString m).toList) : n = m := by
  rw [toList_repr_int, toList_repr_int] at h
  by_cases hn : 0 ≤ n <;> by_cases hm : 0 ≤ m
  · rw [if_pos hn, if_pos hm] at h
    have habs := digits_inj (List.append_cancel_left h)
    omega
  · rw [if_pos hn, if_neg hm] at h
    have hmem : '-' ∈ Nat.toDigits 10 n.natAbs := by
      rw [List.nil_append] at h
      rw [h]
      exact List.mem_cons_self
    exact (minus_not_mem_digits n.natAbs hmem).elim
  · rw [if_neg hn, if_pos hm] at h
    have hmem : '-' ∈ Nat.toDigits 10 m.natAbs := by
      rw [List.nil_append] at h
      rw [← h]
      exact List.mem_cons_self
    exact (minus_not_mem_digits m.natAbs hmem).elim
  · rw [if_neg hn, if_neg hm] at h
    have habs := digits_inj (List.append_cancel_left h)
    omega

theorem isNumeral_of_mem {n : Int} {c : Char} (h : c ∈ (toString n).toList) :
    isNumeral c = true := by
  rw [toList_repr_int, List.mem_append] at h
  rw [isNumeral, Bool.or_eq_true]
  rcases h with h | h
  · split at h
    · cases h
    · exact Or.inr (beq_iff_eq.mpr (List.mem_singleton.mp h))
  · exact Or.inl (Nat.isDigit_of_mem_toDigits (by omega) (by omega) h)

theorem int_delimits {n m : Int} {s t : List Char} (hs : Stops s) (ht : Stops t)
    (h : (toString n).toList ++ s = (toString m).toList ++ t) : n = m ∧ s = t := by
  have htake {k : Int} {r : List Char} (hr : Stops r) :
      ((toString k).toList ++ r).takeWhile isNumeral = (toString k).toList := by
    rw [List.takeWhile_append_of_pos fun c hc => isNumeral_of_mem hc]
    cases r with
    | nil => rw [List.takeWhile_nil, List.append_nil]
    | cons c r => rw [List.takeWhile_cons_of_neg (by simp [hr c rfl]), List.append_nil]
  have htext : (toString n).toList = (toString m).toList := by rw [← htake hs, h, htake ht]
  rw [htext] at h
  exact ⟨int_of_text htext, List.append_cancel_left h⟩

/-! ## Lists -/

section Sequences

variable {α : Type} {P : α → Prop} {f : α → List Char} {close : Char}

/-- Where `f` puts items of `P` into text, they can be told from what comes after. -/
def Delimits (P : α → Prop) (f : α → List Char) (a : α) : Prop :=
  ∀ b, P b → ∀ s t, Stops s → Stops t → f a ++ s = f b ++ t → a = b ∧ s = t

/-- The items after the first one, each behind a comma, and the end of the list. -/
def following (f : α → List Char) (close : Char) : List α → List Char
  | [] => [close]
  | a :: as => ',' :: f a ++ following f close as

def sequence (f : α → List Char) (close : Char) : List α → List Char
  | [] => [close]
  | a :: as => f a ++ following f close as

theorem stops_following (hclose : isNumeral close = false) (as : List α) (s : List Char) :
    Stops (following f close as ++ s) := by
  cases as with
  | nil => exact stops_cons hclose s
  | cons a as => exact stops_cons (by decide) _

theorem following_delimits (hclose : isNumeral close = false) (hcomma : close ≠ ',') :
    ∀ {as bs : List α} {s t : List Char}, (∀ a ∈ as, Delimits P f a) → (∀ b ∈ bs, P b) →
      following f close as ++ s = following f close bs ++ t → as = bs ∧ s = t
  | [], [], s, t, _, _, h => ⟨rfl, (List.cons.inj h).2⟩
  | [], b :: bs, s, t, _, _, h => (hcomma (List.cons.inj h).1).elim
  | a :: as, [], s, t, _, _, h => (hcomma (List.cons.inj h).1.symm).elim
  | a :: as, b :: bs, s, t, ha, hb, h => by
    obtain ⟨ha, has⟩ := List.forall_mem_cons.mp ha
    obtain ⟨hb, hbs⟩ := List.forall_mem_cons.mp hb
    simp only [following, List.cons_append, List.append_assoc, List.cons.injEq, true_and] at h
    obtain ⟨hfirst, hrest⟩ :=
      ha b hb _ _ (stops_following hclose as s) (stops_following hclose bs t) h
    obtain ⟨has, hs⟩ := following_delimits hclose hcomma has hbs hrest
    exact ⟨by rw [hfirst, has], hs⟩

theorem sequence_delimits (hclose : isNumeral close = false) (hcomma : close ≠ ',')
    (hstart : ∀ a, P a → (f a).head? ≠ some close ∧ f a ≠ []) {as bs : List α} {s t : List Char}
    (ha : ∀ a ∈ as, P a ∧ Delimits P f a) (hb : ∀ b ∈ bs, P b)
    (h : sequence f close as ++ s = sequence f close bs ++ t) : as = bs ∧ s = t := by
  have hends {a : α} {rest : List Char} (ha : P a) (s : List Char) :
      close :: s ≠ f a ++ rest := by
    obtain ⟨hhead, hne⟩ := hstart a ha
    obtain ⟨c, cs, hc⟩ := List.exists_cons_of_ne_nil hne
    intro h
    rw [hc, List.cons_append] at h
    exact hhead (by rw [hc, (List.cons.inj h).1]; rfl)
  cases as with
  | nil =>
    cases bs with
    | nil => exact ⟨rfl, (List.cons.inj h).2⟩
    | cons b bs =>
      rw [sequence, sequence, List.append_assoc] at h
      exact (hends (hb b List.mem_cons_self) s h).elim
  | cons a as =>
    obtain ⟨⟨hpa, ha⟩, has⟩ := List.forall_mem_cons.mp ha
    cases bs with
    | nil =>
      rw [sequence, sequence, List.append_assoc] at h
      exact (hends hpa t h.symm).elim
    | cons b bs =>
      obtain ⟨hb, hbs⟩ := List.forall_mem_cons.mp hb
      rw [sequence, sequence, List.append_assoc, List.append_assoc] at h
      obtain ⟨hfirst, hrest⟩ :=
        ha b hb _ _ (stops_following hclose as s) (stops_following hclose bs t) h
      obtain ⟨has, hs⟩ := following_delimits hclose hcomma (fun a ha => (has a ha).2) hbs hrest
      exact ⟨by rw [hfirst, has], hs⟩

theorem toList_intercalate_sequence {parts : List String} :
    (",".intercalate parts).toList ++ [close] = sequence String.toList close parts := by
  cases parts with
  | nil => rfl
  | cons part parts =>
    induction parts generalizing part with
    | nil => simp [sequence, following]
    | cons part' parts ih =>
      rw [String.intercalate_cons_cons, String.toList_append, String.toList_append,
        List.append_assoc, ih part']
      simp [sequence, following]

theorem sequence_map {β : Type} (g : β → α) (bs : List β) :
    sequence f close (bs.map g) = sequence (fun b => f (g b)) close bs := by
  have hfollowing (bs : List β) :
      following f close (bs.map g) = following (fun b => f (g b)) close bs := by
    induction bs with
    | nil => rfl
    | cons b bs ih => simp only [List.map_cons, following, ih]
  cases bs with
  | nil => rfl
  | cons b bs => simp only [List.map_cons, sequence, hfollowing]

end Sequences

/-! ## Values -/

/-- The characters of the compact text. -/
def chars (v : Json) : List Char := v.compact.toList

def fieldChars (e : String × Json) : List Char := (quote e.1).toList ++ ':' :: chars e.2

theorem compactItems_eq_map (items : List Json) : compactItems items = items.map compact := by
  induction items with
  | nil => rfl
  | cons v items ih => rw [compactItems, List.map_cons, ih]

theorem compactFields_eq_map (fields : List (String × Json)) :
    compactFields fields = fields.map fun e => quote e.1 ++ ":" ++ compact e.2 := by
  induction fields with
  | nil => rfl
  | cons e fields ih => rw [compactFields, List.map_cons, ih]

theorem chars_arr (items : List Json) : chars (.arr items) = '[' :: sequence chars ']' items := by
  rw [chars, compact, String.toList_append, String.toList_append, compactItems_eq_map,
    List.append_assoc]
  exact congrArg ('[' :: ·) (toList_intercalate_sequence.trans (sequence_map compact items))

theorem chars_obj (fields : List (String × Json)) :
    chars (.obj fields) = '\x7b' :: sequence fieldChars '\x7d' fields := by
  have hfield (e : String × Json) :
      (quote e.1 ++ ":" ++ compact e.2).toList = fieldChars e := by
    rw [String.toList_append, String.toList_append, List.append_assoc]
    rfl
  rw [chars, compact, String.toList_append, String.toList_append, compactFields_eq_map,
    List.append_assoc]
  refine congrArg ('\x7b' :: ·) (toList_intercalate_sequence.trans ?_)
  rw [sequence_map]
  exact congrArg (fun f => sequence f '\x7d' fields) (funext hfield)

/-- What a text starts with. -/
inductive Start
  | null | bool | number | text | list | object
  deriving DecidableEq

/-- What the first character of a text tells of the value. -/
def Start.of (c : Char) : Start :=
  if c = 'n' then .null else if c = 't' || c = 'f' then .bool else if c = '"' then .text
  else if c = '[' then .list else if c = '\x7b' then .object else .number

def start : Json → Start
  | .null => .null
  | .bool _ => .bool
  | .int _ | .real _ => .number
  | .str _ => .text
  | .arr _ => .list
  | .obj _ => .object

theorem start_of_isNumeral {c : Char} (h : isNumeral c = true) : Start.of c = .number := by
  have hne : c ≠ 'n' ∧ c ≠ 't' ∧ c ≠ 'f' ∧ c ≠ '"' ∧ c ≠ '[' ∧ c ≠ '\x7b' := by
    refine ⟨?_, ?_, ?_, ?_, ?_, ?_⟩ <;> rintro rfl <;> exact absurd h (by decide)
  simp [Start.of, hne]

theorem toList_quote (text : String) :
    (quote text).toList = '"' :: text.toList.flatMap escapeChar ++ ['"'] := by
  rw [quote, String.toList_ofList]

theorem chars_start {v : Json} (h : v.RealFree) :
    ∃ c cs, chars v = c :: cs ∧ Start.of c = v.start ∧ c ≠ ']' := by
  cases v with
  | null => exact ⟨'n', _, rfl, rfl, by decide⟩
  | bool b =>
    cases b
    · exact ⟨'f', _, rfl, rfl, by decide⟩
    · exact ⟨'t', _, rfl, rfl, by decide⟩
  | int n =>
    have hne : chars (.int n) ≠ [] := by
      rw [chars, compact, toList_repr_int]
      exact List.append_ne_nil_of_right_ne_nil _ Nat.toDigits_ne_nil
    obtain ⟨c, cs, hc⟩ := List.exists_cons_of_ne_nil hne
    have hmem : c ∈ chars (.int n) := by rw [hc]; exact List.mem_cons_self
    have hnumeral := isNumeral_of_mem hmem
    refine ⟨c, cs, hc, start_of_isNumeral hnumeral, ?_⟩
    rintro rfl
    exact absurd hnumeral (by decide)
  | real literal => exact (not_realFree_real literal h).elim
  | str text => exact ⟨'"', _, toList_quote text, rfl, by decide⟩
  | arr items => exact ⟨'[', _, chars_arr items, rfl, by decide⟩
  | obj fields => exact ⟨'\x7b', _, chars_obj fields, rfl, by decide⟩

theorem start_eq {v w : Json} (hv : v.RealFree) (hw : w.RealFree) {s t : List Char}
    (h : chars v ++ s = chars w ++ t) : v.start = w.start := by
  obtain ⟨c, cs, hc, hstart, -⟩ := chars_start hv
  obtain ⟨d, ds, hd, hstart', -⟩ := chars_start hw
  rw [hc, hd, List.cons_append, List.cons_append] at h
  rw [← hstart, ← hstart', (List.cons.inj h).1]

theorem chars_opens {v : Json} (h : v.RealFree) :
    (chars v).head? ≠ some ']' ∧ chars v ≠ [] := by
  obtain ⟨c, cs, hc, -, hne⟩ := chars_start h
  rw [hc]
  exact ⟨fun he => hne (Option.some.inj he), List.cons_ne_nil c cs⟩

theorem fieldChars_opens (e : String × Json) :
    (fieldChars e).head? ≠ some '\x7d' ∧ fieldChars e ≠ [] := by
  rw [fieldChars, toList_quote]
  exact ⟨by simp, by simp⟩

theorem fieldChars_delimits {e : String × Json} (h : Delimits RealFree chars e.2) :
    Delimits (fun e => e.2.RealFree) fieldChars e := by
  intro e' he' s t hs ht heq
  rw [fieldChars, fieldChars, List.append_assoc, List.append_assoc] at heq
  obtain ⟨hname, hrest⟩ := quote_delimits heq
  obtain ⟨hvalue, hs⟩ := h e'.2 he' s t hs ht (List.cons.inj hrest).2
  exact ⟨Prod.ext hname hvalue, hs⟩

mutual

theorem delimits : ∀ v : Json, v.RealFree → Delimits RealFree chars v
  | .null => by
    intro hv w hw s t hs ht h
    have hstart := start_eq hv hw h
    cases w with
    | null => exact ⟨rfl, List.append_cancel_left h⟩
    | _ => cases hstart
  | .bool b => by
    intro hv w hw s t hs ht h
    have hstart := start_eq hv hw h
    cases w with
    | bool b' =>
      cases b <;> cases b'
      · exact ⟨rfl, List.append_cancel_left h⟩
      · cases h
      · cases h
      · exact ⟨rfl, List.append_cancel_left h⟩
    | _ => cases hstart
  | .int n => by
    intro hv w hw s t hs ht h
    have hstart := start_eq hv hw h
    cases w with
    | int m =>
      obtain ⟨rfl, hrest⟩ := int_delimits hs ht h
      exact ⟨rfl, hrest⟩
    | real literal => exact (not_realFree_real literal hw).elim
    | _ => cases hstart
  | .real literal => fun hv => (not_realFree_real literal hv).elim
  | .str text => by
    intro hv w hw s t hs ht h
    have hstart := start_eq hv hw h
    cases w with
    | str text' =>
      obtain ⟨rfl, hrest⟩ := quote_delimits h
      exact ⟨rfl, hrest⟩
    | _ => cases hstart
  | .arr items => by
    intro hv w hw s t hs ht h
    have hstart := start_eq hv hw h
    cases w with
    | arr items' =>
      rw [chars_arr, chars_arr] at h
      have hitems := (realFree_arr items).mp hv
      have hdelimits := delimits_items items hitems
      obtain ⟨rfl, hrest⟩ := sequence_delimits (by decide) (by decide) (fun v => chars_opens)
        (fun v hmem => ⟨hitems v hmem, hdelimits v hmem⟩) ((realFree_arr items').mp hw)
        (List.cons.inj h).2
      exact ⟨rfl, hrest⟩
    | _ => cases hstart
  | .obj fields => by
    intro hv w hw s t hs ht h
    have hstart := start_eq hv hw h
    cases w with
    | obj fields' =>
      rw [chars_obj, chars_obj] at h
      have hfields := (realFree_obj fields).mp hv
      have hdelimits := delimits_fields fields hfields
      obtain ⟨rfl, hrest⟩ := sequence_delimits (by decide) (by decide)
        (fun e _ => fieldChars_opens e)
        (fun e hmem => ⟨hfields e hmem, fieldChars_delimits (hdelimits e hmem)⟩)
        ((realFree_obj fields').mp hw) (List.cons.inj h).2
      exact ⟨rfl, hrest⟩
    | _ => cases hstart

theorem delimits_items : ∀ items : List Json, (∀ v ∈ items, v.RealFree) →
    ∀ v ∈ items, Delimits RealFree chars v
  | [], _ => fun _ hv => (List.not_mem_nil hv).elim
  | v :: items, h => by
    obtain ⟨hv, hitems⟩ := List.forall_mem_cons.mp h
    exact List.forall_mem_cons.mpr ⟨delimits v hv, delimits_items items hitems⟩

theorem delimits_fields : ∀ fields : List (String × Json), (∀ e ∈ fields, e.2.RealFree) →
    ∀ e ∈ fields, Delimits RealFree chars e.2
  | [], _ => fun _ he => (List.not_mem_nil he).elim
  | (name, v) :: fields, h => by
    obtain ⟨hv, hfields⟩ := List.forall_mem_cons.mp h
    exact List.forall_mem_cons.mpr ⟨delimits v hv, delimits_fields fields hfields⟩

end

/-- The compact text shows the value. -/
theorem eq_of_compact {v w : Json} (hv : v.RealFree) (hw : w.RealFree)
    (h : v.compact = w.compact) : v = w :=
  (delimits v hv w hw [] [] (fun _ hc => nomatch hc) (fun _ hc => nomatch hc)
    (congrArg (·.toList ++ []) h)).1

end ServiceApi.Json
