import Mathlib
import ServiceApi.Config.Method
import ServiceApi.Proofs.Config.Path

/-! # Texts that are recovered

What is lost on a text and what is not: a text is known from its pieces, and an HTTP method from its
lower-case form, since HTTP methods have no lower-case letters. A text without braces has none in
lower case. -/

namespace ServiceApi

namespace Text

theorem intercalate_piecesOf (sep : Char) (cs : List Char) :
    List.intercalate [sep] (piecesOf sep cs) = cs := by
  induction cs with
  | nil => rfl
  | cons c cs ih =>
    rw [piecesOf]
    split
    · rename_i h
      subst h
      cases hp : piecesOf c cs with
      | nil => exact absurd hp (piecesOf_ne_nil c cs)
      | cons p ps =>
        rw [hp] at ih
        rw [← ih]
        rfl
    · cases hp : piecesOf sep cs with
      | nil => exact absurd hp (piecesOf_ne_nil sep cs)
      | cons p ps =>
        rw [hp] at ih
        rw [← ih]
        cases ps <;> rfl

theorem pieces_injective (sep : Char) : Function.Injective (pieces sep) := by
  intro s t h
  have hpieces : piecesOf sep s.toList = piecesOf sep t.toList := by
    have h' := congrArg (List.map String.toList) h
    simpa [pieces, Function.comp_def] using h'
  have hlist := congrArg (List.intercalate [sep]) hpieces
  rw [intercalate_piecesOf, intercalate_piecesOf] at hlist
  exact String.toList_inj.mp hlist

theorem pieces_ne_nil (sep : Char) (s : String) : pieces sep s ≠ [] := by
  simp [pieces, piecesOf_ne_nil]

theorem mem_of_after? : ∀ {start cs rest : List Char}, after? start cs = some rest →
    ∀ {c : Char}, c ∈ rest → c ∈ cs
  | [], cs, _, h, _, hc => by
    rw [after?] at h
    cases h
    exact hc
  | _ :: _, [], _, h, _, _ => by cases h
  | p :: ps, c :: cs, rest, h, _, hc => by
    rw [after?] at h
    split at h
    · exact List.mem_cons_of_mem c (mem_of_after? h hc)
    · cases h

theorem lowerRuns_apart :
    ∀ r ∈ lowerRuns, r.last + r.offset < 0x7b ∨ 0x7d < r.first + r.offset := by
  decide +kernel

/-- Nothing but a brace becomes a brace in lower case. -/
theorem eq_of_mem_lower {b c : Char} (hb : b = '\x7b' ∨ b = '\x7d') (h : b ∈ lower c) : b = c := by
  have hcode : b.toNat = 0x7b ∨ b.toNat = 0x7d := by rcases hb with rfl | rfl <;> simp
  rw [lower] at h
  split at h
  · rw [List.mem_singleton] at h
    by_cases hupper : c.isUpper = true
    · have hletter : b.isLower = true := by
        rw [h, Char.isLower_toLower_eq_isAlpha, Char.isAlpha, hupper, Bool.true_or]
      rcases hb with rfl | rfl <;> cases hletter
    · rwa [Char.toLower_eq_of_not_isUpper hupper] at h
  · rw [mapCase] at h
    split at h
    · rename_i images himages
      obtain ⟨image, himage, rfl⟩ := List.mem_map.mp h
      have hexpansion : ∀ e ∈ lowerExpansions, ∀ image ∈ e.2,
          ¬ (Char.ofNat image = '\x7b' ∨ Char.ofNat image = '\x7d') := by decide
      exact absurd hb (hexpansion _ (Entries.mem_of_lookup himages) image himage)
    · split at h
      · rename_i r hr
        have hcovers := List.find?_some hr
        have hapart := lowerRuns_apart r (List.mem_of_find?_eq_some hr)
        rw [CaseRun.covers] at hcovers
        rw [List.mem_singleton] at h
        rw [h, Char.toNat_ofNat, Int.ofNat_eq_natCast] at hcode
        split at hcode <;> simp at hcovers <;> omega
      · exact List.mem_singleton.mp h

theorem plain_decapitalize {s : String} (h : Path.IsPlain s) : Path.IsPlain (decapitalize s) := by
  rw [decapitalize]
  split
  · simp [Path.IsPlain]
  · rename_i c rest hs
    rw [Path.IsPlain, hs] at h
    simp only [List.mem_cons, not_or] at h
    rw [Path.IsPlain, String.toList_ofList]
    simp only [List.mem_append, not_or]
    exact ⟨⟨fun hmem => h.1.1 (eq_of_mem_lower (Or.inl rfl) hmem), h.1.2⟩,
      fun hmem => h.2.1 (eq_of_mem_lower (Or.inr rfl) hmem), h.2.2⟩

end Text

theorem HttpMethod.map_toUpper_of_parse? {s method : String} (h : parse? s = some method) :
    method.toList.map Char.toUpper = method.toList := by
  unfold parse? at h
  extract_lets token at h
  have hupper : token.map Char.toUpper = token := by
    simp [token, Function.comp_def]
  split at h
  · rw [← Option.some.inj h, String.toList_ofList, hupper]
  · cases h

namespace MethodConfig

/-- The HTTP method is the one that a name gives, or one that was set. -/
def HasGivenVerb (m : MethodConfig) : Prop :=
  (∃ e, m.httpMethod = (ofMethod e).httpMethod) ∨
    ∃ m₀ value m₁, setHttpMethod m₀ value = .ok m₁ ∧ m.httpMethod = m₁.httpMethod

theorem HasGivenVerb.map_toUpper {m : MethodConfig} (h : m.HasGivenVerb) :
    m.httpMethod.toList.map Char.toUpper = m.httpMethod.toList := by
  rcases h with ⟨e, he⟩ | ⟨m₀, value, m₁, hset, hm⟩
  · rw [he, ofMethod]
    dsimp only
    cases Verb.ofMethodName e.name <;> decide
  · rw [setHttpMethod] at hset
    split at hset
    · rename_i text htext
      rw [hm, ← Except.ok.inj hset]
      exact HttpMethod.map_toUpper_of_parse? htext
    · cases hset

/-- The HTTP method in lower case, as operations are listed under. -/
def lowerHttpMethod (m : MethodConfig) : String :=
  String.ofList (m.httpMethod.toList.map Char.toLower)

theorem httpMethod_of_lower_eq {m m' : MethodConfig} (hm : m.HasGivenVerb) (hm' : m'.HasGivenVerb)
    (h : m.lowerHttpMethod = m'.lowerHttpMethod) : m.httpMethod = m'.httpMethod := by
  have hlower : m.httpMethod.toList.map Char.toLower = m'.httpMethod.toList.map Char.toLower := by
    simpa [lowerHttpMethod] using congrArg String.toList h
  have hupper := congrArg (List.map Char.toUpper) hlower
  simp only [List.map_map, Function.comp_def, Char.toUpper_toLower_eq_toUpper] at hupper
  rw [hm.map_toUpper, hm'.map_toUpper] at hupper
  exact String.toList_inj.mp hupper

end MethodConfig

end ServiceApi
