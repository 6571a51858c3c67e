import ServiceApi.Load
import ServiceApi.Proofs.Document.Schemas
import ServiceApi.Proofs.List

/-! # Loading, whatever passes went before

The passes that are begun leave a trace, but what a load or a reload comes to does not depend on it:
it is what the passes make of one configuration after the other. -/

namespace ServiceApi

variable {α β : Type}

namespace Loading

/-- What comes of loading after the passes of `log`. -/
def result (m : Loading α) (log : List Pass) : Except ApiError α := (m.run.run log).1

/-- The result is `r` after whatever passes. -/
def Answers (m : Loading α) (r : Except ApiError α) : Prop := ∀ log, m.result log = r

theorem answers_mk (r : Except ApiError α) : Answers (ExceptT.mk (pure r)) r := fun _ => rfl

theorem answers_pure (a : α) : Answers (pure a) (.ok a) := fun _ => rfl

theorem Answers.bind {m : Loading α} {r : Except ApiError α} {f : α → Loading β}
    {g : α → Except ApiError β} (hm : m.Answers r) (hf : ∀ a, (f a).Answers (g a)) :
    (m >>= f).Answers (r >>= g) := by
  intro log
  have hrun : (m >>= f).run.run log =
      match m.run.run log with
      | (.ok a, log') => (f a).run.run log'
      | (.error e, log') => (.error e, log') := by
    show (ExceptT.bindCont f (m.run.run log).1) (m.run.run log).2 = _
    rcases m.run.run log with ⟨_ | _, _⟩ <;> rfl
  have hm := hm log
  unfold result at hm ⊢
  rw [hrun]
  rcases hlog : m.run.run log with ⟨a | a, log'⟩ <;> rw [hlog] at hm <;> subst hm
  · rfl
  · exact hf a log'

theorem answers_runPasses {pass : String → Pass}
    {run : ConfigSource → ApiConfig → Except ApiError ApiConfig} :
    ∀ (sources : List ConfigSource) (config : ApiConfig),
      (runPasses pass run sources config).Answers
        (sources.foldlM (fun config s => run s config) config)
  | [], config => answers_pure config
  | s :: sources, config => by
    have hbegin : Answers (do modify (· ++ [pass s.name]); runPasses.liftExcept (run s config))
        (run s config) := fun _ => rfl
    exact hbegin.bind (answers_runPasses sources)

end Loading

theorem Catalog.requireClass_eq_ok {c : Catalog} {name location : String} {decl : ClassDecl} :
    c.requireClass name location = .ok decl ↔ c.class? name = some decl := by
  rw [requireClass]
  cases c.class? name <;> simp

theorem ConfigSource.runMethods_eq_ok {s : ConfigSource} {context : ServiceContext}
    {decl : ClassDecl} {a b : ApiConfig} : s.runMethods context decl a = .ok b ↔ ∃ methods,
      s.applyMethods context decl a.catalog a.rules a.methods = .ok methods ∧
        b = a.setMethods methods := by
  rw [runMethods]
  cases s.applyMethods context decl a.catalog a.rules a.methods <;> simp [Except.map, eq_comm]

namespace Loader

variable (l : Loader) (context : ServiceContext) (serviceClass : String)

def loaded : Except ApiError ApiConfig := do
  let decl ← l.catalog.requireClass serviceClass "load configuration"
  let config := ApiConfig.default l.shared context serviceClass
  let config ← ConfigSource.annotations.runClass context decl config
  let config ← l.sources.foldlM (fun config s => s.runClass context decl config) config
  let config ← ConfigSource.annotations.runMethods context decl config
  l.sources.foldlM (fun config s => s.runMethods context decl config) config

def reloaded (old : ApiConfig) : Except ApiError ApiConfig := do
  let decl ← l.catalog.requireClass serviceClass "reload configuration"
  let dynamic := l.sources.filter (!·.isStatic old)
  let config ← dynamic.foldlM (fun config s => s.runClass context decl config) old
  dynamic.foldlM (fun config s => s.runMethods context decl config) config

theorem answers_load : (l.load context serviceClass).Answers (l.loaded context serviceClass) :=
  (Loading.answers_mk _).bind fun _ => (Loading.answers_mk _).bind fun config =>
    (Loading.answers_runPasses l.sources config).bind
      fun _ => (Loading.answers_mk _).bind fun config =>
      Loading.answers_runPasses l.sources config

/-- Without further sources a load is the two passes over the annotations, from the defaults. -/
theorem loaded_annotations {shared : SharedCatalog} {config : ApiConfig}
    (h : ({ shared } : Loader).loaded context serviceClass = .ok config) :
    ∃ decl top, shared.catalog.class? serviceClass = some decl ∧
      ConfigSource.annotations.runClass context decl (.default shared context serviceClass) =
        .ok top ∧
      ConfigSource.annotations.runMethods context decl top = .ok config := by
  obtain ⟨decl, hdecl, h⟩ := ok_of_bind h
  obtain ⟨top, htop, h⟩ := ok_of_bind h
  obtain ⟨_, hsame, h⟩ := ok_of_bind h
  cases hsame
  obtain ⟨_, hmethods, hsame⟩ := ok_of_bind h
  cases hsame
  exact ⟨decl, top, Catalog.requireClass_eq_ok.mp hdecl, htop, hmethods⟩

theorem answers_reload (old : ApiConfig) :
    (l.reload context serviceClass old).Answers (l.reloaded context serviceClass old) :=
  (Loading.answers_mk _).bind fun _ => (Loading.answers_runPasses _ old).bind fun config =>
    Loading.answers_runPasses _ config

end Loader

end ServiceApi
