import ServiceApi.Node.JsonReader
import ServiceApi.Proofs.Json.Compact

/-! # Compact texts are read back

The reader takes a compact text for the value that it was written from, whatever comes after it. It
never meets a blank. An integer beyond 64 bits is read as another number, and values with literals
are left out. -/

namespace ServiceApi.Json

open Node Node.JsonReader

mutual

/-- What the compact text of a value is read as. -/
def node : Json → Node
  | .null => .null
  | .bool b => .bool b
  | .int n => if isInt64 n then .int n else .real (isFiniteNumber (Nat.toDigits 10 n.natAbs) [] 0)
  | .real _ => .malformed
  | .str s => .text s
  | .arr items => .row (nodes items)
  | .obj fields => .record (fieldNodes fields)

def nodes : List Json → List Node
  | [] => []
  | v :: vs => node v :: nodes vs

def fieldNodes : List (String × Json) → List (String × Node)
  | [] => []
  | (k, v) :: fs => (k, node v) :: fieldNodes fs

end

theorem nodes_eq_map (items : List Json) : nodes items = items.map node := by
  induction items with
  | nil => rfl
  | cons v items ih => rw [nodes, List.map_cons, ih]

theorem fieldNodes_eq_map (fields : List (String × Json)) :
    fieldNodes fields = fields.map fun e => (e.1, node e.2) := by
  induction fields with
  | nil => rfl
  | cons e fields ih => rw [fieldNodes, List.map_cons, ih]

/-! ## Strings -/

theorem hex4?_hexChar : ∀ n < 32, hex4? '0' '0' (hexChar (n / 16)) (hexChar (n % 16)) = some n := by
  decide

theorem readUnits_cons {c : Char} (hquote : c ≠ '"') (hslash : c ≠ '\\') (hlow : ¬ c.toNat < 0x20)
    {cs rest : List Char} {units : List Nat} (h : readUnits cs = some (units, rest)) :
    readUnits (c :: cs) = some (c.toNat :: units, rest) := by
  unfold readUnits
  split
  case h_4 heq =>
    obtain ⟨rfl, rfl⟩ := List.cons.inj heq
    rw [if_neg (by simp [hslash, hlow]), h]
    rfl
  all_goals simp_all

theorem readUnits_escapeChar (c : Char) {cs rest : List Char} {units : List Nat}
    (h : readUnits cs = some (units, rest)) :
    readUnits (escapeChar c ++ cs) = some (c.toNat :: units, rest) := by
  unfold escapeChar
  split
  case h_6 hquote hslash _ _ _ =>
    split
    · rename_i h8
      simp [readUnits, h, h8]
    · split
      · rename_i h12
        simp [readUnits, h, h12]
      · split
        · rename_i hlow
          simp [readUnits, hex4?_hexChar _ hlow, h]
        · rename_i hlow
          exact readUnits_cons hquote hslash hlow h
  all_goals simp [readUnits, h]

theorem readUnits_escaped (cs rest : List Char) :
    readUnits (cs.flatMap escapeChar ++ '"' :: rest) = some (cs.map Char.toNat, rest) := by
  induction cs with
  | nil => simp [readUnits]
  | cons c cs ih =>
    rw [List.flatMap_cons, List.append_assoc]
    exact readUnits_escapeChar c ih

/-- No character is half of a surrogate pair. -/
theorem joinUnits_map_toNat (cs : List Char) : joinUnits (cs.map Char.toNat) = some cs := by
  induction cs with
  | nil => rfl
  | cons c cs ih =>
    have hvalid : c.toNat < 0xD800 ∨ 0xDFFF < c.toNat ∧ c.toNat < 0x110000 := c.valid
    rw [List.map_cons, joinUnits.eq_def]
    dsimp only
    rw [if_neg (by omega), if_neg (by omega), ih, Char.ofNat_toNat]
    rfl

theorem readString_quote (s : String) (rest : List Char) :
    readString (s.toList.flatMap escapeChar ++ '"' :: rest) = some (some s, rest) := by
  rw [readString, readUnits_escaped]
  simp [joinUnits_map_toNat]

/-! ## Numbers -/

/-- What may come after a value. -/
def Ends (rest : List Char) : Prop := ∀ c ∈ rest.head?, c = ',' ∨ c = ']' ∨ c = '\x7d'

theorem readDigits_append {digits rest : List Char} (hne : digits ≠ [])
    (hdigits : ∀ c ∈ digits, c.isDigit = true) (hrest : ∀ c ∈ rest.head?, c.isDigit = false) :
    readDigits (digits ++ rest) = some (digits, rest) := by
  have htake : (digits ++ rest).takeWhile Char.isDigit = digits := by
    rw [List.takeWhile_append_of_pos hdigits]
    cases rest with
    | nil => simp
    | cons c rest => simp [hrest c rfl]
  have hdrop : (digits ++ rest).dropWhile Char.isDigit = rest := by
    rw [List.dropWhile_append_of_pos hdigits]
    cases rest with
    | nil => rfl
    | cons c rest => simp [hrest c rfl]
  rw [readDigits, htake, hdrop]
  cases digits with
  | nil => exact absurd rfl hne
  | cons d digits => rfl

theorem isDigit_of_mem_digits {n : Nat} {c : Char} (h : c ∈ Nat.toDigits 10 n) : c.isDigit = true :=
  Nat.isDigit_of_mem_toDigits (by omega) (by omega) h

theorem decimal?_digits (n : Nat) : Text.decimal? (Nat.toDigits 10 n) = some n := by
  have hall : (Nat.toDigits 10 n).all Char.isDigit = true :=
    List.all_eq_true.mpr fun c => isDigit_of_mem_digits
  have hvalue : Nat.ofDigitChars 10 (Nat.toDigits 10 n) 0 = n := Nat.ofDigitChars_ten_toDigits
  rw [Text.decimal?, if_neg (by simp [hall, Nat.toDigits_ne_nil])]
  exact congrArg some hvalue

/-- Only zero begins with the digit zero. -/
theorem head_digits {n : Nat} (h : 0 < n) : (Nat.toDigits 10 n).head? ≠ some '0' := by
  induction n using Nat.strongRecOn with
  | _ n ih =>
    rw [Nat.toDigits_eq_if (by omega)]
    split
    · rename_i hsmall
      have hdigit : ∀ d < 10, 0 < d → Nat.digitChar d ≠ '0' := by decide
      simpa using hdigit n hsmall h
    · rw [List.head?_append, Option.or_of_isSome (by simp [Nat.toDigits_ne_nil])]
      exact ih (n / 10) (by omega) (by omega)

theorem Ends.not_isDigit {rest : List Char} (h : Ends rest) :
    ∀ c ∈ rest.head?, c.isDigit = false := by
  intro c hc
  rcases h c hc with rfl | rfl | rfl <;> rfl

theorem Ends.readFraction {rest : List Char} (h : Ends rest) :
    readFraction rest = some ([], rest) := by
  cases rest with
  | nil => rfl
  | cons c rest =>
    have hpoint : c ≠ '.' := by rcases h c rfl with rfl | rfl | rfl <;> decide
    unfold JsonReader.readFraction
    split
    · rename_i heq
      exact absurd (List.cons.inj heq).1 hpoint
    · rfl

theorem Ends.readExponent {rest : List Char} (h : Ends rest) :
    readExponent rest = some (none, rest) := by
  cases rest with
  | nil => rfl
  | cons c rest =>
    have hletter : (c == 'e' || c == 'E') = false := by rcases h c rfl with rfl | rfl | rfl <;> rfl
    rw [JsonReader.readExponent, if_neg (by simp [hletter])]

/-- Only zero begins with the digit zero, so no digit is too much. -/
theorem padded_digits (n : Nat) :
    ((Nat.toDigits 10 n).length > 1 && (Nat.toDigits 10 n).head? == some '0') = false := by
  by_cases hzero : n = 0
  · rw [hzero]
    rfl
  · simp [head_digits (Nat.pos_of_ne_zero hzero)]

/-- An integer has no minus before zero. -/
theorem readNumber_int (n : Int) {rest : List Char} (h : Ends rest) :
    readNumber ((toString n).toList ++ rest) = some (node (.int n), rest) := by
  have hdigits := readDigits_append (Nat.toDigits_ne_nil (n := n.natAbs) (b := 10))
    (fun c => isDigit_of_mem_digits) h.not_isDigit
  have hminus := minus_not_mem_digits n.natAbs
  obtain ⟨d, ds, hds⟩ := List.exists_cons_of_ne_nil (Nat.toDigits_ne_nil (n := n.natAbs) (b := 10))
  unfold readNumber
  split
  rename_i negative body hsign
  obtain ⟨rfl, rfl⟩ : negative = decide (n < 0) ∧ body = Nat.toDigits 10 n.natAbs ++ rest := by
    rw [toList_repr_int] at hsign
    by_cases hn : 0 ≤ n
    · rw [if_pos hn, List.nil_append, hds] at hsign
      split at hsign
      · rename_i heq
        rw [hds, (List.cons.inj heq).1] at hminus
        exact absurd List.mem_cons_self hminus
      · cases hsign
        exact ⟨(decide_eq_false (by omega)).symm, by rw [hds]⟩
    · rw [if_neg hn] at hsign
      cases hsign
      exact ⟨(decide_eq_true (by omega)).symm, rfl⟩
  have hvalue : (if decide (n < 0) = true then -(n.natAbs : Int) else n.natAbs) = n := by
    split <;> rename_i hn <;> simp only [decide_eq_true_eq] at hn <;> omega
  have hnonzero : (decide (n < 0) && n == 0) = false := by
    by_cases hn : n < 0
    · simp [hn, show n ≠ 0 by omega]
    · simp [hn]
  rw [hdigits]
  simp only [Option.bind_eq_bind, Option.bind_some, padded_digits, Bool.false_eq_true, if_false,
    h.readFraction]
  rw [h.readExponent, Option.bind_some, decimal?_digits, Option.getD_some, hvalue, hnonzero, node]
  cases isInt64 n <;> rfl

/-! ## Values -/

theorem skip_cons {c : Char} (h : isJsonBlank c = false) (cs : List Char) :
    skip (c :: cs) = c :: cs :=
  List.dropWhile_cons_of_neg (by simp [h])

theorem eq_of_blank {c : Char} (h : isJsonBlank c = true) :
    c = ' ' ∨ c = '\n' ∨ c = '\t' ∨ c = '\r' := by
  simpa [isJsonBlank, or_assoc] using h

theorem not_blank_of_isNumeral {c : Char} (h : isNumeral c = true) : isJsonBlank c = false := by
  by_contra hblank
  rcases eq_of_blank (Bool.not_eq_false _ ▸ hblank) with rfl | rfl | rfl | rfl <;> cases h

theorem chars_begin {v : Json} (h : v.RealFree) :
    ∃ c cs, chars v = c :: cs ∧ isJsonBlank c = false ∧ c ≠ ']' := by
  obtain ⟨c, cs, hc, hstart, hne⟩ := chars_start h
  refine ⟨c, cs, hc, ?_, hne⟩
  cases v with
  | int n =>
    have hmem : c ∈ chars (.int n) := by rw [hc]; exact List.mem_cons_self
    exact not_blank_of_isNumeral (isNumeral_of_mem hmem)
  | real literal => exact absurd h (not_realFree_real literal)
  | _ =>
    by_contra hblank
    rcases eq_of_blank (Bool.not_eq_false _ ▸ hblank) with rfl | rfl | rfl | rfl <;> cases hstart

theorem skip_comma (cs : List Char) : skip (',' :: cs) = ',' :: cs := rfl

theorem skip_colon (cs : List Char) : skip (':' :: cs) = ':' :: cs := rfl

theorem skip_quote (cs : List Char) : skip ('"' :: cs) = '"' :: cs := rfl

theorem ends_cons {c : Char} (h : c = ',' ∨ c = ']' ∨ c = '\x7d') (rest : List Char) :
    Ends (c :: rest) := by
  rintro d ⟨⟩
  exact h

/-- The text of the value is read as its node, and no further. -/
def ReadsBack (v : Json) : Prop := ∀ (fuel : Nat) (rest : List Char), Ends rest →
  2 * (chars v).length ≤ fuel → readValue fuel (chars v ++ rest) = some (node v, rest)

/-- No text is empty, so none is read without fuel. -/
theorem ReadsBack.of_succ {v : Json} (hv : v.RealFree)
    (h : ∀ (fuel : Nat) (rest : List Char), Ends rest →
    2 * (chars v).length ≤ fuel + 1 → readValue (fuel + 1) (chars v ++ rest) =
      some (node v, rest)) :
    ReadsBack v := by
  intro fuel rest hrest hfuel
  cases fuel with
  | zero =>
    obtain ⟨c, cs, hc, -⟩ := chars_begin hv
    simp [hc] at hfuel
  | succ fuel => exact h fuel rest hrest hfuel

theorem following_cons {α : Type} {f : α → List Char} {close : Char} (a : α) (as : List α) :
    following f close (a :: as) = ',' :: sequence f close (a :: as) := rfl

theorem readItems_sequence {v : Json} {vs : List Json} (h : ∀ w ∈ v :: vs, ReadsBack w) {fuel : Nat}
    {rest : List Char} (hfuel : 2 * (sequence chars ']' (v :: vs)).length ≤ fuel) :
    readItems fuel (sequence chars ']' (v :: vs) ++ rest) = some (nodes (v :: vs), rest) := by
  induction vs generalizing v fuel with
  | nil =>
    rw [sequence, List.length_append, following, List.length_singleton] at hfuel
    have hends : Ends (']' :: rest) := ends_cons (Or.inr (Or.inl rfl)) rest
    cases fuel with
    | zero => omega
    | succ fuel =>
      have hv := (List.forall_mem_cons.mp h).1 fuel _ hends (by omega)
      rw [sequence, following, List.append_assoc, List.singleton_append, readItems, hv]
      rfl
  | cons w ws ih =>
    rw [sequence, List.length_append, following_cons, List.length_cons] at hfuel
    have hends : Ends (',' :: (sequence chars ']' (w :: ws) ++ rest)) := ends_cons (Or.inl rfl) _
    cases fuel with
    | zero => omega
    | succ fuel =>
      obtain ⟨hv, hvs⟩ := List.forall_mem_cons.mp h
      have hv := hv fuel _ hends (by omega)
      have hvs : readItems fuel (sequence chars ']' (w :: ws) ++ rest) = _ := ih hvs (by omega)
      rw [sequence, List.append_assoc, following_cons, List.cons_append, readItems, hv]
      simp only [Option.bind_eq_bind, Option.bind_some, skip_comma, hvs]
      rfl

/-- A field is read in the same way, after its name. -/
theorem readFields_sequence {e : String × Json} {es : List (String × Json)}
    (h : ∀ f ∈ e :: es, ReadsBack f.2) {fuel : Nat} {rest : List Char}
    (hfuel : 2 * (sequence fieldChars '\x7d' (e :: es)).length ≤ fuel) :
    readFields fuel (sequence fieldChars '\x7d' (e :: es) ++ rest) =
      some ((e :: es).map fun f => (some f.1, node f.2), rest) := by
  have hname (e : String × Json) (next : List Char) : fieldChars e ++ next =
      '"' :: (e.1.toList.flatMap escapeChar ++ '"' :: ':' :: (chars e.2 ++ next)) := by
    simp [fieldChars, toList_quote]
  have hlength (e : String × Json) : (chars e.2).length < (fieldChars e).length := by
    simp [fieldChars]
    omega
  induction es generalizing e fuel with
  | nil =>
    rw [sequence, List.length_append, following, List.length_singleton] at hfuel
    have hends : Ends ('\x7d' :: rest) := ends_cons (Or.inr (Or.inr rfl)) rest
    cases fuel with
    | zero => omega
    | succ fuel =>
      have hlength := hlength e
      have he := (List.forall_mem_cons.mp h).1 fuel _ hends (by omega)
      rw [sequence, following, List.append_assoc, List.singleton_append, hname,
        readFields, skip_quote]
      simp only [readString_quote, Option.bind_eq_bind, Option.bind_some, skip_colon, he]
      rfl
  | cons f fs ih =>
    rw [sequence, List.length_append, following_cons, List.length_cons] at hfuel
    have hends : Ends (',' :: (sequence fieldChars '\x7d' (f :: fs) ++ rest)) :=
      ends_cons (Or.inl rfl) _
    cases fuel with
    | zero => omega
    | succ fuel =>
      obtain ⟨he, hfs⟩ := List.forall_mem_cons.mp h
      have hlength := hlength e
      have he := he fuel _ hends (by omega)
      have hfs : readFields fuel (sequence fieldChars '\x7d' (f :: fs) ++ rest) = _ :=
        ih hfs (by omega)
      rw [sequence, List.append_assoc, following_cons, List.cons_append, hname,
        readFields, skip_quote]
      simp only [readString_quote, Option.bind_eq_bind, Option.bind_some, skip_colon,
        he, skip_comma, hfs]
      rfl

/-- The field, if its key is a text. -/
def keyed? (field : Option String × Node) : Option (String × Node) := field.1.map (·, field.2)

theorem ofPairs_eq_elim (fields : List (Option String × Node)) :
    ofPairs fields = (fields.mapM keyed?).elim .malformed .record := by
  unfold ofPairs
  split <;> rename_i hkeys <;> rw [show fields.mapM keyed? = _ from hkeys] <;> rfl

theorem ofPairs_fieldNodes (fields : List (String × Json)) :
    ofPairs (fields.map fun e => (some e.1, node e.2)) = .record (fieldNodes fields) := by
  have hkeys :
      (fields.map fun e => (some e.1, node e.2)).mapM keyed? = some (fieldNodes fields) := by
    rw [fieldNodes_eq_map]
    induction fields with
    | nil => rfl
    | cons e fields ih => simp [keyed?, ih]
  rw [ofPairs_eq_elim, hkeys]
  rfl

theorem readValue_number {c : Char} (h : isNumeral c = true) (fuel : Nat) (cs : List Char) :
    readValue (fuel + 1) (c :: cs) = readNumber (c :: cs) := by
  have hblank : isJsonBlank c = false := not_blank_of_isNumeral h
  rw [readValue, skip_cons hblank]
  split
  all_goals
    first
      | rfl
      | rename_i heq
        rw [(List.cons.inj heq).1] at h
        cases h

namespace ReadsBack

theorem int (n : Int) : ReadsBack (.int n) := by
  refine .of_succ (realFree_int n) fun fuel rest hrest _ => ?_
  obtain ⟨c, cs, hc, -⟩ := chars_begin (realFree_int n)
  have hmem : c ∈ chars (.int n) := by rw [hc]; exact List.mem_cons_self
  have hnumber := readNumber_int n hrest
  rw [show (toString n).toList = chars (.int n) from rfl, hc] at hnumber
  rw [hc, List.cons_append, readValue_number (isNumeral_of_mem hmem)]
  exact hnumber

theorem str (s : String) : ReadsBack (.str s) := by
  refine .of_succ (realFree_str s) fun fuel rest _ _ => ?_
  have hchars : chars (.str s) ++ rest = '"' :: (s.toList.flatMap escapeChar ++ '"' :: rest) := by
    rw [chars, compact, toList_quote]
    simp
  rw [hchars, readValue, skip_quote]
  simp only [readString_quote]
  rfl

theorem arr {items : List Json} (hfree : ∀ v ∈ items, v.RealFree)
    (hitems : ∀ v ∈ items, ReadsBack v) : ReadsBack (.arr items) := by
  refine .of_succ ((realFree_arr items).mpr hfree) fun fuel rest _ hfuel => ?_
  rw [chars_arr, List.length_cons] at hfuel
  rw [chars_arr, List.cons_append, readValue, skip_cons rfl]
  cases items with
  | nil => rfl
  | cons v vs =>
    have hread : readItems fuel (sequence chars ']' (v :: vs) ++ rest) = _ :=
      readItems_sequence hitems (by omega)
    obtain ⟨c, cs, hc, hblank, hne⟩ := chars_begin (hfree v List.mem_cons_self)
    rw [sequence, hc, List.cons_append, List.cons_append] at hread ⊢
    simp only [skip_cons hblank]
    split
    · rename_i heq
      exact absurd (List.cons.inj heq).1 hne
    · rw [hread]
      rfl

theorem obj {fields : List (String × Json)} (hfree : ∀ e ∈ fields, e.2.RealFree)
    (hfields : ∀ e ∈ fields, ReadsBack e.2) : ReadsBack (.obj fields) := by
  refine .of_succ ((realFree_obj fields).mpr hfree) fun fuel rest _ hfuel => ?_
  rw [chars_obj, List.length_cons] at hfuel
  rw [chars_obj, List.cons_append, readValue, skip_cons rfl]
  cases fields with
  | nil => rfl
  | cons e es =>
    have hread : readFields fuel (sequence fieldChars '\x7d' (e :: es) ++ rest) = _ :=
      readFields_sequence hfields (by omega)
    rw [sequence, fieldChars, toList_quote, List.cons_append, List.cons_append, List.cons_append,
      List.cons_append] at hread ⊢
    simp only [skip_quote]
    split
    · rename_i heq
      cases (List.cons.inj heq).1
    · rw [hread, Option.bind_eq_bind, Option.bind_some, ofPairs_fieldNodes]
      rfl

end ReadsBack

mutual

theorem readsBack : ∀ v : Json, v.RealFree → ReadsBack v
  | .null, h => .of_succ h fun _ _ _ _ => rfl
  | .bool b, h => .of_succ h fun _ _ _ _ => by cases b <;> rfl
  | .int n, _ => .int n
  | .real literal, h => absurd h (not_realFree_real literal)
  | .str s, _ => .str s
  | .arr items, h =>
    have hfree := (realFree_arr items).mp h
    .arr hfree (readsBack_items items hfree)
  | .obj fields, h =>
    have hfree := (realFree_obj fields).mp h
    .obj hfree (readsBack_fields fields hfree)

theorem readsBack_items : ∀ items : List Json, (∀ v ∈ items, v.RealFree) → ∀ v ∈ items, ReadsBack v
  | [], _ => fun _ hv => (List.not_mem_nil hv).elim
  | v :: items, h => by
    obtain ⟨hv, hitems⟩ := List.forall_mem_cons.mp h
    exact List.forall_mem_cons.mpr ⟨readsBack v hv, readsBack_items items hitems⟩

theorem readsBack_fields : ∀ fields : List (String × Json), (∀ e ∈ fields, e.2.RealFree) →
    ∀ e ∈ fields, ReadsBack e.2
  | [], _ => fun _ he => (List.not_mem_nil he).elim
  | (name, v) :: fields, h => by
    obtain ⟨hv, hfields⟩ := List.forall_mem_cons.mp h
    exact List.forall_mem_cons.mpr ⟨readsBack v hv, readsBack_fields fields hfields⟩

end

/-- The compact text of a value without literals is read as its node. -/
theorem ofJson?_compact {v : Json} (h : v.RealFree) : Node.ofJson? v.compact = some v.node := by
  have hread := readsBack v h (2 * (chars v).length + 2) [] (by rintro c ⟨⟩) (by omega)
  rw [List.append_nil] at hread
  rw [chars] at hread
  simp only [ofJson?, hread]
  rfl

end ServiceApi.Json
