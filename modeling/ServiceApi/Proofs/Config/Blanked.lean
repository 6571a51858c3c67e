import ServiceApi.Proofs.Config.Path

/-! # Paths up to what placeholders are called

Paths with the names of their placeholders left out, read in two ways. `replaceFrom` takes the
placeholders that `scan` finds, and leaves everything else as it is; it is the same for two paths
just if they differ in the names of placeholders alone. `blankFrom` looks at one brace at a time. It
comes to the same where braces close in turn, and nowhere else: it drops a closing brace that closes
nothing, and takes each opening one for a placeholder, be it inside another or never closed. -/

namespace ServiceApi.Path

variable {cs cs' before name after out : List Char} {names names' : List (List Char)}

/-- The path with the placeholders from here on left without names; `name` is what has been read of
an open one. -/
def replaceFrom : Option (List Char) → List Char → List Char
  | none, [] => []
  | some name, [] => '\x7b' :: name
  | none, c :: cs => if c = '\x7b' then replaceFrom (some []) cs else c :: replaceFrom none cs
  | some name, c :: cs =>
    if c = '\x7d' then '\x7b' :: '\x7d' :: replaceFrom none cs
    else replaceFrom (some (name ++ [c])) cs

/-- The text is a template whose placeholders are called `names`, in order; without these names, and
with all else kept, it is the last one. -/
inductive Blanks : List Char → List (List Char) → List Char → Prop
  | plain {cs : List Char} : '\x7b' ∉ cs → Blanks cs [] cs
  | unclosed {before after : List Char} : '\x7b' ∉ before → '\x7d' ∉ after →
      Blanks (before ++ '\x7b' :: after) [] (before ++ '\x7b' :: after)
  | placeholder {before name after out : List Char} {names : List (List Char)} : '\x7b' ∉ before →
      '\x7d' ∉ name → Blanks after names out →
      Blanks (before ++ '\x7b' :: (name ++ '\x7d' :: after)) (name :: names)
        (before ++ '\x7b' :: '\x7d' :: out)

/-- Two paths that differ in the names of their placeholders alone. -/
inductive Alike : List Char → List Char → Prop
  | plain {cs : List Char} : '\x7b' ∉ cs → Alike cs cs
  | unclosed {before after : List Char} : '\x7b' ∉ before → '\x7d' ∉ after →
      Alike (before ++ '\x7b' :: after) (before ++ '\x7b' :: after)
  | placeholder {before name name' after after' : List Char} : '\x7b' ∉ before →
      '\x7d' ∉ name → '\x7d' ∉ name' → Alike after after' →
      Alike (before ++ '\x7b' :: (name ++ '\x7d' :: after))
        (before ++ '\x7b' :: (name' ++ '\x7d' :: after'))

theorem replaceFrom_plain (h : '\x7b' ∉ before) (after : List Char) :
    replaceFrom none (before ++ after) = before ++ replaceFrom none after := by
  induction before with
  | nil => rfl
  | cons c before ih =>
    rw [List.mem_cons, not_or] at h
    rw [List.cons_append, replaceFrom, if_neg (Ne.symm h.1), ih h.2, List.cons_append]

theorem replaceFrom_open (after : List Char) :
    replaceFrom none ('\x7b' :: after) = replaceFrom (some []) after := by
  rw [replaceFrom, if_pos rfl]

theorem replaceFrom_unclosed (h : '\x7d' ∉ after) (name : List Char) :
    replaceFrom (some name) after = '\x7b' :: (name ++ after) := by
  induction after generalizing name with
  | nil => rw [replaceFrom, List.append_nil]
  | cons c after ih =>
    rw [List.mem_cons, not_or] at h
    rw [replaceFrom, if_neg (Ne.symm h.1), ih h.2, List.append_assoc, List.singleton_append]

theorem replaceFrom_closed (h : '\x7d' ∉ name) (start after : List Char) :
    replaceFrom (some start) (name ++ '\x7d' :: after) =
      '\x7b' :: '\x7d' :: replaceFrom none after := by
  induction name generalizing start with
  | nil => rw [List.nil_append, replaceFrom, if_pos rfl]
  | cons c name ih =>
    rw [List.mem_cons, not_or] at h
    rw [List.cons_append, replaceFrom, if_neg (Ne.symm h.1), ih h.2]

/-- A template is replaced part by part. -/
theorem replaceFrom_template (hbefore : '\x7b' ∉ before) (hname : '\x7d' ∉ name)
    (after : List Char) : replaceFrom none (before ++ '\x7b' :: (name ++ '\x7d' :: after)) =
      before ++ '\x7b' :: '\x7d' :: replaceFrom none after := by
  rw [replaceFrom_plain hbefore, replaceFrom_open, replaceFrom_closed hname]

theorem replaceFrom_self (h : Template cs []) : replaceFrom none cs = cs := by
  cases h with
  | plain h =>
    have hself := replaceFrom_plain h []
    rwa [List.append_nil, replaceFrom, List.append_nil] at hself
  | unclosed hbefore hafter =>
    rw [replaceFrom_plain hbefore, replaceFrom_open, replaceFrom_unclosed hafter, List.nil_append]

theorem Template.blanks (h : Template cs names) : Blanks cs names (replaceFrom none cs) := by
  induction h with
  | plain hopen => rw [replaceFrom_self (.plain hopen)]; exact .plain hopen
  | unclosed hbefore hafter =>
    rw [replaceFrom_self (.unclosed hbefore hafter)]
    exact .unclosed hbefore hafter
  | placeholder hbefore hname _ ih =>
    rw [replaceFrom_template hbefore hname]; exact .placeholder hbefore hname ih

theorem Blanks.replaceFrom_eq (h : Blanks cs names out) : replaceFrom none cs = out := by
  induction h with
  | plain hopen => exact replaceFrom_self (.plain hopen)
  | unclosed hbefore hafter => exact replaceFrom_self (.unclosed hbefore hafter)
  | placeholder hbefore hname _ ih => rw [replaceFrom_template hbefore hname, ih]

theorem Alike.replaceFrom_eq (h : Alike cs cs') : replaceFrom none cs = replaceFrom none cs' := by
  induction h with
  | plain | unclosed => rfl
  | placeholder hbefore hname hname' _ ih =>
    rw [replaceFrom_template hbefore hname, replaceFrom_template hbefore hname', ih]

/-- A path without placeholders is none that has one, even without its name. -/
theorem Template.ne_placeholder (h : Template cs []) (hbefore : '\x7b' ∉ before) :
    cs ≠ before ++ '\x7b' :: '\x7d' :: after := by
  intro heq
  cases h with
  | plain hopen => exact hopen (heq ▸ List.mem_append_right _ List.mem_cons_self)
  | unclosed hfirst hrest =>
    obtain ⟨-, rfl⟩ := eq_of_append_cons_eq hfirst hbefore heq
    exact hrest List.mem_cons_self

theorem Template.alike_self (h : Template cs []) : Alike cs cs := by
  cases h with
  | plain hopen => exact .plain hopen
  | unclosed hbefore hafter => exact .unclosed hbefore hafter

theorem Alike.symm (h : Alike cs cs') : Alike cs' cs := by
  induction h with
  | plain hopen => exact .plain hopen
  | unclosed hbefore hafter => exact .unclosed hbefore hafter
  | placeholder hbefore hname hname' _ ih => exact .placeholder hbefore hname' hname ih

/-- A path without placeholders is like no other. -/
theorem Template.alike_of_eq (h : Template cs []) (h' : Template cs' names')
    (heq : replaceFrom none cs = replaceFrom none cs') : Alike cs cs' := by
  rw [replaceFrom_self h] at heq
  have hself (h' : Template cs' []) : Alike cs cs' := by
    rw [replaceFrom_self h'] at heq
    exact heq ▸ h.alike_self
  cases h' with
  | plain hopen => exact hself (.plain hopen)
  | unclosed hbefore hafter => exact hself (.unclosed hbefore hafter)
  | placeholder hbefore hname _ =>
    rw [replaceFrom_template hbefore hname] at heq
    exact absurd heq (h.ne_placeholder hbefore)

theorem alike_of_eq (h : Template cs names) (h' : Template cs' names')
    (heq : replaceFrom none cs = replaceFrom none cs') : Alike cs cs' := by
  induction h generalizing cs' names' with
  | plain hopen => exact (Template.plain hopen).alike_of_eq h' heq
  | unclosed hbefore hafter => exact (Template.unclosed hbefore hafter).alike_of_eq h' heq
  | placeholder hbefore hname hafter ih =>
    have h := Template.placeholder hbefore hname hafter
    cases h' with
    | plain hopen => exact ((Template.plain hopen).alike_of_eq h heq.symm).symm
    | unclosed hbefore' hafter' =>
      exact ((Template.unclosed hbefore' hafter').alike_of_eq h heq.symm).symm
    | placeholder hbefore' hname' hafter' =>
      rw [replaceFrom_template hbefore hname, replaceFrom_template hbefore' hname'] at heq
      obtain ⟨rfl, htail⟩ := eq_of_append_cons_eq hbefore hbefore' heq
      exact .placeholder hbefore hname hname' (ih hafter' (List.cons.inj htail).2)

/-- Two paths are the same without the names of their placeholders just if they differ in these
alone. -/
theorem alike_iff : Alike cs cs' ↔ replaceFrom none cs = replaceFrom none cs' := by
  refine ⟨Alike.replaceFrom_eq, ?_⟩
  obtain ⟨names, h⟩ := exists_template cs
  obtain ⟨names', h'⟩ := exists_template cs'
  exact alike_of_eq h h'

/-! ## One brace at a time -/

/-- Braces close in turn: an opening one is followed by a closing one before the next, and no other
closing one stands anywhere. `inside` if one is open. -/
def balancedFrom : Bool → List Char → Bool
  | inside, [] => !inside
  | inside, c :: cs =>
    if c = '\x7b' then !inside && balancedFrom true cs
    else if c = '\x7d' then inside && balancedFrom false cs
    else balancedFrom inside cs

def isBalanced (path : String) : Bool := balancedFrom false path.toList

/-- A closing brace comes of an opening one. -/
theorem blankFrom_ne_close (inside : Bool) (cs rest : List Char) :
    blankFrom inside cs ≠ '\x7d' :: rest := by
  induction cs generalizing inside with
  | nil => rw [blankFrom]; nofun
  | cons c cs ih =>
    rw [blankFrom]
    split
    · intro h
      cases (List.cons.inj h).1
    · rename_i hclose
      split
      · exact ih false
      · rename_i hclose
        split
        · exact ih true
        · exact fun h => hclose (List.cons.inj h).1

theorem count_blankFrom (inside : Bool) (cs : List Char) :
    (blankFrom inside cs).count '\x7b' = cs.count '\x7b' := by
  induction cs generalizing inside with
  | nil => rfl
  | cons c cs ih =>
    rw [blankFrom]
    split
    · rename_i hopen
      subst hopen
      simp [ih]
    · rename_i hopen
      rw [List.count_cons_of_ne hopen]
      split
      · exact ih false
      · split
        · exact ih true
        · rw [List.count_cons_of_ne hopen, ih]

/-- What is replaced has no more opening braces than it had. -/
theorem count_replaceFrom_le (cs : List Char) :
    (replaceFrom none cs).count '\x7b' ≤ cs.count '\x7b' := by
  obtain ⟨names, h⟩ := exists_template cs
  induction h with
  | plain hopen => exact Nat.le_of_eq (congrArg _ (replaceFrom_self (.plain hopen)))
  | unclosed hbefore hafter =>
    exact Nat.le_of_eq (congrArg _ (replaceFrom_self (.unclosed hbefore hafter)))
  | placeholder hbefore hname _ ih =>
    rw [replaceFrom_template hbefore hname]
    simp only [List.count_append, List.count_cons_self,
      List.count_cons_of_ne (show '\x7d' ≠ '\x7b' by decide)]
    omega

/-- An opening brace inside a placeholder is taken for one of a placeholder of its own. -/
theorem blankFrom_nested_ne (hname : '\x7d' ∉ name) (cs : List Char) :
    '\x7b' :: '\x7d' :: blankFrom true ('\x7b' :: cs) ≠ replaceFrom (some name) ('\x7b' :: cs) := by
  rw [blankFrom, if_pos rfl]
  intro heq
  by_cases hclose : '\x7d' ∈ cs
  · -- One opening brace for the two of which only the first begins a placeholder.
    obtain ⟨inner, after, rfl, hinner⟩ := List.eq_append_cons_of_mem hclose
    rw [← List.cons_append, replaceFrom_closed (by simpa using hinner)] at heq
    have hcount := congrArg (List.count '\x7b') heq
    have hle := count_replaceFrom_le after
    simp only [List.count_append, List.count_cons_self,
      List.count_cons_of_ne (show '\x7d' ≠ '\x7b' by decide), count_blankFrom] at hcount
    omega
  · -- No closing brace at all for the first one.
    rw [replaceFrom_unclosed (by simpa using hclose)] at heq
    have hmem : '\x7d' ∈ name ++ '\x7b' :: cs := (List.cons.inj heq).2 ▸ List.mem_cons_self
    simp [hname, hclose] at hmem

mutual

/-- Outside of placeholders the two readings agree just where braces close in turn. -/
theorem blankFrom_eq_iff : ∀ cs : List Char,
    blankFrom false cs = replaceFrom none cs ↔ balancedFrom false cs = true
  | [] => ⟨fun _ => rfl, fun _ => rfl⟩
  | c :: cs => by
    rw [blankFrom, replaceFrom, balancedFrom]
    by_cases hopen : c = '\x7b'
    · rw [if_pos hopen, if_pos hopen, if_pos hopen, Bool.not_false, Bool.true_and]
      exact blankFrom_open_eq_iff cs [] List.not_mem_nil
    · rw [if_neg hopen, if_neg hopen, if_neg hopen]
      by_cases hclose : c = '\x7d'
      · rw [if_pos hclose, if_pos hclose, hclose]
        exact iff_of_false (blankFrom_ne_close false cs _) nofun
      · rw [if_neg hclose, if_neg hclose, if_neg Bool.false_ne_true, List.cons.injEq,
          blankFrom_eq_iff cs]
        exact and_iff_right rfl

/-- Inside of one as well; `name` is what has been read of it. -/
theorem blankFrom_open_eq_iff : ∀ (cs name : List Char), '\x7d' ∉ name →
    ('\x7b' :: '\x7d' :: blankFrom true cs = replaceFrom (some name) cs ↔
      balancedFrom true cs = true)
  | [], name, hname => by
    refine iff_of_false (fun h => hname ?_) nofun
    rw [replaceFrom] at h
    exact (List.cons.inj h).2 ▸ List.mem_cons_self
  | c :: cs, name, hname => by
    by_cases hopen : c = '\x7b'
    · subst hopen
      exact iff_of_false (blankFrom_nested_ne hname cs) (by rw [balancedFrom, if_pos rfl]; nofun)
    · rw [blankFrom, replaceFrom, balancedFrom, if_neg hopen, if_neg hopen]
      by_cases hclose : c = '\x7d'
      · rw [if_pos hclose, if_pos hclose, if_pos hclose, List.cons.injEq, List.cons.injEq,
          blankFrom_eq_iff cs]
        simp
      · rw [if_neg hclose, if_neg hclose, if_neg hclose, if_pos rfl]
        exact blankFrom_open_eq_iff cs (name ++ [c]) (by simpa [hname] using Ne.symm hclose)

end

theorem toList_blanked_iff {path : String} :
    (blanked path).toList = replaceFrom none path.toList ↔ isBalanced path = true := by
  rw [blanked, String.toList_ofList, blankFrom_eq_iff, isBalanced]

/-- A path is blanked to itself without the names of its placeholders just if its braces close in
turn. -/
theorem blanks_blanked_iff {path : String} :
    Blanks path.toList ((placeholders path).map String.toList) (blanked path).toList ↔
      isBalanced path = true := by
  rw [← toList_blanked_iff]
  constructor
  · intro h
    exact h.replaceFrom_eq.symm
  · intro h
    rw [h]
    exact (template_placeholders path).blanks

/-- Paths whose braces close in turn are blanked to the same just if they differ in the names of
placeholders alone. -/
theorem blanked_eq_iff {path path' : String} (h : isBalanced path = true)
    (h' : isBalanced path' = true) :
    blanked path = blanked path' ↔ Alike path.toList path'.toList := by
  rw [alike_iff, ← toList_blanked_iff.mpr h, ← toList_blanked_iff.mpr h', String.toList_inj]

end ServiceApi.Path
