import ServiceApi.Config.Path
import ServiceApi.Proofs.List

/-! # What the placeholders of a path are

A placeholder begins at the first opening brace after the one before it, and ends at the next
closing brace, whatever stands between. `scan` finds these and no others, and a path mentions a name
just if one of them is called so. -/

namespace ServiceApi.Path

variable {cs before name after : List Char} {names : List (List Char)}

/-- The text is a template whose placeholders are called `names`, in order. -/
inductive Template : List Char → List (List Char) → Prop
  | plain {cs : List Char} : '\x7b' ∉ cs → Template cs []
  | unclosed {before after : List Char} : '\x7b' ∉ before → '\x7d' ∉ after →
      Template (before ++ '\x7b' :: after) []
  | placeholder {before name after : List Char} {names : List (List Char)} : '\x7b' ∉ before →
      '\x7d' ∉ name → Template after names →
      Template (before ++ '\x7b' :: (name ++ '\x7d' :: after)) (name :: names)

theorem scan_plain (h : '\x7b' ∉ before) (after : List Char) :
    scan none (before ++ after) = scan none after := by
  induction before with
  | nil => rfl
  | cons c before ih =>
    rw [List.mem_cons, not_or] at h
    rw [List.cons_append, scan, if_neg (Ne.symm h.1), ih h.2]

theorem scan_unclosed (h : '\x7d' ∉ after) (name : List Char) : scan (some name) after = [] := by
  induction after generalizing name with
  | nil => rfl
  | cons c after ih =>
    rw [List.mem_cons, not_or] at h
    rw [scan, if_neg (Ne.symm h.1), ih h.2]

theorem scan_closed (h : '\x7d' ∉ name) (start after : List Char) :
    scan (some start) (name ++ '\x7d' :: after) = (start ++ name) :: scan none after := by
  induction name generalizing start with
  | nil => rw [List.nil_append, scan, if_pos rfl, List.append_nil]
  | cons c name ih =>
    rw [List.mem_cons, not_or] at h
    rw [List.cons_append, scan, if_neg (Ne.symm h.1), ih h.2, List.append_assoc,
      List.singleton_append]

theorem scan_open (after : List Char) : scan none ('\x7b' :: after) = scan (some []) after := by
  rw [scan, if_pos rfl]

theorem Template.scan_eq (h : Template cs names) : scan none cs = names := by
  induction h with
  | @plain cs h => rw [← List.append_nil cs, scan_plain h, scan]
  | unclosed hbefore hafter => rw [scan_plain hbefore, scan_open, scan_unclosed hafter]
  | placeholder hbefore hname _ ih =>
    rw [scan_plain hbefore, scan_open, scan_closed hname, List.nil_append, ih]

/-- Every text is a template, since what is left after a placeholder is shorter. -/
theorem exists_template (cs : List Char) : ∃ names, Template cs names := by
  by_cases hopen : '\x7b' ∈ cs
  · obtain ⟨before, rest, rfl, hbefore⟩ := List.eq_append_cons_of_mem hopen
    by_cases hclose : '\x7d' ∈ rest
    · obtain ⟨name, after, rfl, hname⟩ := List.eq_append_cons_of_mem hclose
      have hshorter : after.length < (before ++ '\x7b' :: (name ++ '\x7d' :: after)).length := by
        simp only [List.length_append, List.length_cons]
        omega
      obtain ⟨names, hafter⟩ := exists_template after
      exact ⟨name :: names, .placeholder hbefore hname hafter⟩
    · exact ⟨[], .unclosed hbefore hclose⟩
  · exact ⟨[], .plain hopen⟩
termination_by cs.length

theorem template_iff : Template cs names ↔ scan none cs = names := by
  refine ⟨Template.scan_eq, ?_⟩
  rintro rfl
  obtain ⟨names, h⟩ := exists_template cs
  exact h.scan_eq ▸ h

/-- The placeholders of a path are those of the template that it is. -/
theorem template_placeholders (path : String) :
    Template path.toList ((placeholders path).map String.toList) := by
  refine template_iff.mpr ?_
  simp [placeholders, Function.comp_def]

/-! ## Names that are mentioned -/

theorem occurs_iff {part : List Char} : ∀ {cs : List Char}, occurs part cs = true ↔ part <:+: cs
  | [] => by rw [occurs, List.isEmpty_iff, List.infix_nil]
  | c :: cs => by
    rw [occurs, Bool.or_eq_true, List.isPrefixOf_iff_prefix, occurs_iff, List.infix_cons_iff]

theorem toList_placeholder (name : String) :
    (placeholder name).toList = '\x7b' :: (name.toList ++ ['\x7d']) := by
  simp [placeholder]

theorem Template.infix_of_mem (h : Template cs names) (hname : name ∈ names) :
    '\x7b' :: (name ++ ['\x7d']) <:+: cs := by
  induction h with
  | plain | unclosed => cases hname
  | @placeholder before first after names _ _ _ ih =>
    rcases List.mem_cons.mp hname with rfl | hname
    · exact ⟨before, after, by simp⟩
    · obtain ⟨start, rest, rfl⟩ := ih hname
      exact ⟨before ++ '\x7b' :: (first ++ '\x7d' :: start), rest, by simp⟩

/-- An opening brace of `before ++ '{' :: rest` is the one shown, or stands after it. -/
theorem eq_or_of_append_open {start after rest : List Char} (hbefore : '\x7b' ∉ before)
    (h : start ++ '\x7b' :: after = before ++ '\x7b' :: rest) :
    (start = before ∧ after = rest) ∨ ∃ between, rest = between ++ '\x7b' :: after := by
  rcases List.append_eq_append_iff.mp h with ⟨extra, rfl, htail⟩ | ⟨extra, rfl, htail⟩
  · cases extra with
    | nil => exact Or.inl ⟨(List.append_nil _).symm, (List.cons.inj htail).2⟩
    | cons c extra =>
      have hmem : '\x7b' ∈ start ++ c :: extra :=
        List.mem_append_right _ ((List.cons.inj htail).1 ▸ List.mem_cons_self)
      exact absurd hmem hbefore
  · cases extra with
    | nil => exact Or.inl ⟨List.append_nil _, (List.cons.inj htail).2.symm⟩
    | cons c extra => exact Or.inr ⟨extra, (List.cons.inj htail).2⟩

/-- Where no placeholder is called by a name with an opening brace, what reads like a placeholder is
one. -/
theorem Template.mem_of_infix (h : Template cs names) (hplain : ∀ name ∈ names, '\x7b' ∉ name)
    (hname : '\x7d' ∉ name) (hpart : '\x7b' :: (name ++ ['\x7d']) <:+: cs) : name ∈ names := by
  obtain ⟨start, rest, heq⟩ := hpart
  rw [List.append_assoc, List.cons_append, List.append_assoc, List.singleton_append] at heq
  induction h generalizing start with
  | plain hopen =>
    exact absurd (heq ▸ List.mem_append_right _ List.mem_cons_self) hopen
  | unclosed hbefore hafter =>
    have hclose : '\x7d' ∈ name ++ '\x7d' :: rest := List.mem_append_right _ List.mem_cons_self
    rcases eq_or_of_append_open hbefore heq with ⟨-, rfl⟩ | ⟨between, rfl⟩
    · exact absurd hclose hafter
    · exact absurd (List.mem_append_right _ (List.mem_cons_of_mem _ hclose)) hafter
  | @placeholder before first after names hbefore hfirst _ ih =>
    obtain ⟨hopen, hplain⟩ := List.forall_mem_cons.mp hplain
    rcases eq_or_of_append_open hbefore heq with ⟨-, htail⟩ | ⟨between, htail⟩
    · rw [(eq_of_append_cons_eq hname hfirst htail).1]
      exact List.mem_cons_self
    · refine List.mem_cons_of_mem _ ?_
      -- The braces between: the one that closes this placeholder comes before the one that opens
      -- the next.
      rcases List.append_eq_append_iff.mp htail.symm with ⟨extra, rfl, hrest⟩ | ⟨extra, rfl, hrest⟩
      · cases extra with
        | nil => cases hrest
        | cons c extra =>
          exact absurd
            (List.mem_append_right _ ((List.cons.inj hrest).1 ▸ List.mem_cons_self)) hopen
      · cases extra with
        | nil => cases hrest
        | cons c extra => exact ih hplain extra (List.cons.inj hrest).2.symm

/-- Without braces. -/
def IsPlain (name : String) : Prop := '\x7b' ∉ name.toList ∧ '\x7d' ∉ name.toList

instance (name : String) : Decidable (IsPlain name) :=
  inferInstanceAs (Decidable ('\x7b' ∉ name.toList ∧ '\x7d' ∉ name.toList))

theorem mentions_iff {path name : String} (hplain : ∀ n ∈ placeholders path, IsPlain n)
    (hname : IsPlain name) : mentions path name = true ↔ name ∈ placeholders path := by
  have hmem : name.toList ∈ (placeholders path).map String.toList ↔ name ∈ placeholders path :=
    List.mem_map_of_injective fun _ _ => String.toList_inj.mp
  rw [mentions, occurs_iff, toList_placeholder, ← hmem]
  have htemplate := template_placeholders path
  refine ⟨htemplate.mem_of_infix ?_ hname.2, htemplate.infix_of_mem⟩
  rw [List.forall_mem_map]
  exact fun n hn => (hplain n hn).1

/-! ## Paths that are put together -/

/-- The base, unless there is none, and a placeholder for each name. -/
def joined (base : String) (names : List String) : String :=
  "/".intercalate ((if base.isEmpty then [] else [base]) ++ names.map placeholder)

theorem joined_nil (base : String) : joined base [] = base := by
  rw [joined]
  split
  · rename_i hbase
    rw [String.isEmpty_iff.mp hbase]
    rfl
  · simp

/-- To join is to add one placeholder after the other. -/
theorem extend_joined (base : String) (names : List String) (name : String) :
    extend (joined base names) name = joined base (names ++ [name]) := by
  rw [extend, joined, joined, List.map_append, List.map_singleton, ← List.append_assoc]
  generalize hparts : (if base.isEmpty then [] else [base]) ++ names.map placeholder = parts
  have hfirst : ∀ part ∈ parts, part ≠ "" := by
    subst hparts
    intro part hpart
    rcases List.mem_append.mp hpart with hpart | hpart
    · split at hpart
      · cases hpart
      · rename_i hbase
        rw [List.mem_singleton.mp hpart]
        exact fun heq => hbase (String.isEmpty_iff.mpr heq)
    · obtain ⟨n, -, rfl⟩ := List.mem_map.mp hpart
      exact fun heq => by simpa [toList_placeholder] using congrArg String.toList heq
  cases parts with
  | nil => rw [if_pos (by rfl)]; rfl
  | cons part parts =>
    have hjoined : ("/".intercalate (part :: parts)).isEmpty = false := by
      have hpart := hfirst part List.mem_cons_self
      cases parts <;> simp [hpart]
    rw [if_neg (by simp [hjoined]), String.intercalate_append_of_ne_nil (by simp) (by simp),
      String.intercalate_singleton]

theorem intercalate_slash (first : List Char) (rest : List (List Char)) :
    List.intercalate ['/'] (first :: rest) = first ++ rest.flatMap ('/' :: ·) := by
  induction rest generalizing first with
  | nil => simp
  | cons next rest ih => simp [List.intercalate_cons_cons, ih]

theorem template_append : ∀ {names : List String} {before : List Char}, '\x7b' ∉ before →
    (∀ name ∈ names, IsPlain name) →
      Template (before ++ names.flatMap fun name => '/' :: (placeholder name).toList)
        (names.map String.toList)
  | [], _, hbefore, _ => by
    rw [List.flatMap_nil, List.append_nil]
    exact .plain hbefore
  | name :: names, before, hbefore, hplain => by
    obtain ⟨hname, hplain⟩ := List.forall_mem_cons.mp hplain
    have hslash : '\x7b' ∉ before ++ ['/'] := by simpa using hbefore
    have hrest := template_append List.not_mem_nil hplain
    have hall := Template.placeholder hslash hname.2 hrest
    simpa [toList_placeholder] using hall

theorem template_joined {base : String} {names : List String} (hbase : IsPlain base)
    (hplain : ∀ name ∈ names, IsPlain name) :
    Template (joined base names).toList (names.map String.toList) := by
  rw [joined, String.toList_intercalate, List.map_append, List.map_map]
  by_cases hempty : base.isEmpty = true
  · rw [if_pos hempty]
    cases names with
    | nil => exact .plain (by simp)
    | cons name names =>
      obtain ⟨hname, hplain⟩ := List.forall_mem_cons.mp hplain
      have hrest := template_append List.not_mem_nil hplain
      have hall := Template.placeholder List.not_mem_nil hname.2 hrest
      simpa [intercalate_slash, toList_placeholder, List.flatMap_map, Function.comp_def] using hall
  · have hall := template_append hbase.1 hplain
    simpa [hempty, intercalate_slash, List.flatMap_map, Function.comp_def] using hall

/-- Names that are told apart from the text around them are the placeholders of what they are joined
to. -/
theorem placeholders_joined {base : String} {names : List String} (hbase : IsPlain base)
    (hplain : ∀ name ∈ names, IsPlain name) : placeholders (joined base names) = names := by
  rw [placeholders, (template_joined hbase hplain).scan_eq, List.map_map]
  simp [Function.comp_def]

end ServiceApi.Path
