import ServiceApi.Schema.Repository

/-! # Work on a repository, step by step

What each way of putting work together answers and leaves. A failure ends the work where it stands,
and the repository stays as it is then, so a law about failing work speaks of two repositories. -/

namespace ServiceApi.Compile

variable {α β : Type} {s t u : Repository} {e : ApiError}

@[simp] theorem result_pure (a : α) (s : Repository) :
    (pure a : Compile α).result s = (.ok a, s) := rfl

@[simp] theorem result_throw (e : ApiError) (s : Repository) :
    (throw e : Compile α).result s = (.error e, s) := rfl

@[simp] theorem result_get (s : Repository) :
    (get : Compile Repository).result s = (.ok s, s) := rfl

@[simp] theorem result_modify (f : Repository → Repository) (s : Repository) :
    (modify f : Compile PUnit).result s = (.ok ⟨⟩, f s) := rfl

@[simp] theorem result_ofExcept (r : Except ApiError α) (s : Repository) :
    (ofExcept r).result s = (r, s) := rfl

theorem result_bind (m : Compile α) (f : α → Compile β) (s : Repository) :
    (m >>= f).result s = match m.result s with
      | (.ok a, t) => (f a).result t
      | (.error e, t) => (.error e, t) := by
  simp only [result, ExceptT.run_bind, StateT.run_bind]
  rcases m.run.run s with ⟨r, t⟩
  cases r <;> rfl

theorem result_tryCatch (m : Compile α) (f : ApiError → Compile α) (s : Repository) :
    (tryCatch m f).result s = match m.result s with
      | (.ok a, t) => (.ok a, t)
      | (.error e, t) => (f e).result t := by
  simp only [result, ExceptT.run_tryCatch, StateT.run_bind]
  rcases m.run.run s with ⟨r, t⟩
  cases r <;> rfl

theorem bind_of_ok {m : Compile α} {f : α → Compile β} {a : α} (h : m.result s = (.ok a, t)) :
    (m >>= f).result s = (f a).result t := by
  rw [result_bind, h]

theorem bind_of_error {m : Compile α} {f : α → Compile β} (h : m.result s = (.error e, t)) :
    (m >>= f).result s = (.error e, t) := by
  rw [result_bind, h]

theorem ok_of_bind {m : Compile α} {f : α → Compile β} {b : β}
    (h : (m >>= f).result s = (.ok b, u)) :
    ∃ a t, m.result s = (.ok a, t) ∧ (f a).result t = (.ok b, u) := by
  rw [result_bind] at h
  rcases hm : m.result s with ⟨r, t⟩
  rw [hm] at h
  cases r with
  | ok a => exact ⟨a, t, rfl, h⟩
  | error e => cases h

theorem ok_of_ofExcept {r : Except ApiError α} {f : α → Compile β} {b : β}
    (h : (ofExcept r >>= f).result s = (.ok b, u)) :
    ∃ a, r = .ok a ∧ (f a).result s = (.ok b, u) := by
  rw [result_bind, result_ofExcept] at h
  cases r with
  | ok a => exact ⟨a, rfl, h⟩
  | error e => cases h

theorem exists_result_of_isOk {m : Compile α} (h : (m.result s).1.isOk = true) :
    ∃ a u, m.result s = (.ok a, u) := by
  rcases hm : m.result s with ⟨r, u⟩
  rw [hm] at h
  cases r with
  | ok a => exact ⟨a, u, rfl⟩
  | error e => cases h

theorem forM_cons (f : α → Compile PUnit) (a : α) (as : List α) :
    (a :: as).forM f = f a >>= fun _ => as.forM f := rfl

/-- Each item is there with what came of it. -/
theorem ok_of_mapM {f : α → Compile β} : ∀ {as : List α} {s : Repository} {bs : List (α × β)},
    (as.mapM fun a => do return (a, ← f a)).result s = (.ok bs, u) →
      bs.map Prod.fst = as ∧ ∀ b ∈ bs, ∃ s t, (f b.1).result s = (.ok b.2, t)
  | [], s, bs, h => by
    cases h
    exact ⟨rfl, fun _ hb => (List.not_mem_nil hb).elim⟩
  | a :: as, s, bs, h => by
    rw [List.mapM_cons] at h
    obtain ⟨b, t, hb, h⟩ := ok_of_bind h
    obtain ⟨v, t', hv, hb⟩ := ok_of_bind hb
    cases hb
    obtain ⟨rest, t', hrest, h⟩ := ok_of_bind h
    cases h
    obtain ⟨hfst, hall⟩ := ok_of_mapM hrest
    exact ⟨congrArg (a :: ·) hfst, List.forall_mem_cons.mpr ⟨⟨s, _, hv⟩, hall⟩⟩

/-! ## Properties that work keeps -/

/-- Whether it fails or not, `m` leaves `I` true. -/
def Keeps (I : Repository → Prop) (m : Compile α) : Prop := ∀ s, I s → I (m.result s).2

variable {I : Repository → Prop}

theorem Keeps.pure (a : α) : Keeps I (pure a : Compile α) := fun _ h => h

theorem Keeps.throw (e : ApiError) : Keeps I (throw e : Compile α) := fun _ h => h

theorem Keeps.get : Keeps I (get : Compile Repository) := fun _ h => h

theorem Keeps.ofExcept (r : Except ApiError α) : Keeps I (ofExcept r) := fun _ h => h

theorem Keeps.bind {m : Compile α} {f : α → Compile β} (hm : Keeps I m) (hf : ∀ a, Keeps I (f a)) :
    Keeps I (m >>= f) := by
  intro s hs
  have ht := hm s hs
  rw [result_bind]
  rcases hr : m.result s with ⟨r, t⟩
  rw [hr] at ht
  cases r with
  | ok a => exact hf a t ht
  | error e => exact ht

theorem Keeps.tryCatch {m : Compile α} {f : ApiError → Compile α} (hm : Keeps I m)
    (hf : ∀ e, Keeps I (f e)) : Keeps I (tryCatch m f) := by
  intro s hs
  have ht := hm s hs
  rw [result_tryCatch]
  rcases hr : m.result s with ⟨r, t⟩
  rw [hr] at ht
  cases r with
  | ok a => exact ht
  | error e => exact hf e t ht

theorem Keeps.forM {f : α → Compile PUnit} (hf : ∀ a, Keeps I (f a)) :
    ∀ as : List α, Keeps I (as.forM f)
  | [] => Keeps.pure _
  | a :: as => (hf a).bind fun _ => Keeps.forM hf as

theorem Keeps.mapM {f : α → Compile β} (hf : ∀ a, Keeps I (f a)) (as : List α) :
    Keeps I (as.mapM f) := by
  induction as with
  | nil => simpa using Keeps.pure _
  | cons a as ih =>
    rw [List.mapM_cons]
    exact (hf a).bind fun _ => ih.bind fun _ => Keeps.pure _

theorem Keeps.carryOut {meet : SchemaKey → Compile Unit} (h : ∀ key, Keeps I (meet key))
    (p : Plan α) : Keeps I (p.carryOut meet) :=
  (Keeps.forM h p.needs).bind fun _ => Keeps.ofExcept _

end ServiceApi.Compile
