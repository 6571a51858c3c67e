import ServiceApi.Document.Format
import ServiceApi.Proofs.List
import ServiceApi.Proofs.Schema.Declarations

/-! # Documents come from configurations and declarations

Of the catalog behind a configuration a document shows the declarations and nothing else: not the
place that the catalog came from, nor the order in which it was filled. -/

namespace ServiceApi

open Compile

/-! ## Parameters -/

namespace SameDeclarations

variable {c c' : Catalog} (h : SameDeclarations c c') (p : ParameterConfig)

include h

theorem applyFirst : ParameterConfig.applyFirst c = ParameterConfig.applyFirst c' := by
  funext t transformers
  simp only [ParameterConfig.applyFirst, h.instantiate]

theorem baseType : p.baseType c = p.baseType c' := by
  funext rules
  simp only [ParameterConfig.baseType, ParameterConfig.effectiveTransformers, h.applyFirst,
    h.transformersOf]

theorem itemBaseType? : p.itemBaseType? c = p.itemBaseType? c' := by
  funext rules
  simp only [ParameterConfig.itemBaseType?, ParameterConfig.itemType?,
    ParameterConfig.effectiveItemTransformers, h.baseType, h.arrayItem?, h.applyFirst,
    h.itemTransformersOf]

theorem classification : p.classification c = p.classification c' := by
  funext rules
  simp only [ParameterConfig.classification, h.isInjected, h.isParameterType, h.baseType,
    h.itemBaseType?]

end SameDeclarations

/-! ## Methods -/

/-- The same configuration, loaded from another place where the same is declared. -/
structure ApiConfig.SameSource (a b : ApiConfig) : Prop where
  config : { a with shared := b.shared } = b
  declarations : SameDeclarations a.catalog b.catalog

structure MethodScope.SameSource (m n : MethodScope) : Prop where
  api : m.api.SameSource n.api
  method : m.method = n.method

namespace ApiConfig.SameSource

variable {a b : ApiConfig} (h : a.SameSource b)

include h

theorem key : a.key = b.key := by
  rw [← h.config]
  rfl

theorem getOrAdd (fuel : Nat) (t : TypeExpr) :
    Repository.getOrAdd fuel t a = Repository.getOrAdd fuel t b := by
  have hrules : a.rules = b.rules := by
    rw [← h.config]
  simp only [Repository.getOrAdd, h.declarations.schemaType, h.declarations.compile, hrules, h.key]

theorem methodScopes : List.Forall₂ MethodScope.SameSource a.methodScopes b.methodScopes := by
  have hmethods : b.methods = a.methods := by
    rw [← h.config]
    rfl
  rw [ApiConfig.methodScopes, ApiConfig.methodScopes, hmethods, List.forall₂_map_left_iff,
    List.forall₂_map_right_iff]
  exact List.forall₂_same.mpr fun method _ => ⟨h, rfl⟩

end ApiConfig.SameSource

namespace MethodScope.SameSource

variable {m n : MethodScope} (h : m.SameSource n)

include h

/-- What is read off a method and its configuration, the catalog apart. -/
theorem read {β : Type} (f : MethodScope → β)
    (hf : ∀ a method shared, f ⟨{ a with shared }, method⟩ = f ⟨a, method⟩) : f m = f n := by
  obtain ⟨b, method⟩ := n
  have hn : (⟨b, method⟩ : MethodScope) = ⟨{ m.api with shared := b.shared }, m.method⟩ :=
    congrArg₂ MethodScope.mk h.api.config.symm h.method.symm
  rw [hn]
  exact (hf m.api m.method b.shared).symm

theorem sentParameters : m.sentParameters = n.sentParameters := by
  have hrules : m.api.rules = n.api.rules := h.read (fun m => m.api.rules) fun _ _ _ => rfl
  have hlocate : m.locate = n.locate := h.read MethodScope.locate fun _ _ _ => rfl
  have hsent : m.sentParameter? = n.sentParameter? := by
    funext p
    simp only [MethodScope.sentParameter?, hlocate, h.api.declarations.classification,
      h.api.declarations.itemBaseType?, h.api.declarations.baseType, h.api.declarations.fieldType?,
      h.api.declarations.declOf?, hrules, h.method]
  have harrange : m.arrange = n.arrange := h.read MethodScope.arrange fun _ _ _ => rfl
  rw [MethodScope.sentParameters, MethodScope.sentParameters, hsent, harrange, h.method]

theorem requestBody (fuel : Nat) : m.requestBody fuel = n.requestBody fuel := by
  have hrules : m.api.rules = n.api.rules := h.read (fun m => m.api.rules) fun _ _ _ => rfl
  have hamong (ps : List ParameterConfig) : m.resourceAmong ps = n.resourceAmong ps := by
    induction ps with
    | nil => rfl
    | cons p ps ih =>
      simp only [MethodScope.resourceAmong, h.api.declarations.classification, hrules, ih]
  simp only [MethodScope.requestBody, hamong, h.method, h.api.declarations.baseType, hrules,
    h.api.getOrAdd]

theorem responseSchema (fuel : Nat) : m.responseSchema fuel = n.responseSchema fuel := by
  simp only [MethodScope.responseSchema, h.method, h.api.getOrAdd]

theorem entry (fuel : Nat) : Legacy.entry fuel m = Legacy.entry fuel n := by
  have hheader : Legacy.methodHeader m = Legacy.methodHeader n :=
    h.read Legacy.methodHeader fun _ _ _ => rfl
  simp only [Legacy.entry, h.sentParameters, h.requestBody, h.responseSchema, hheader]

theorem discovered (fuel : Nat) : Discovery.method fuel m = Discovery.method fuel n := by
  have hname : m.fullName = n.fullName := h.read MethodScope.fullName fun _ _ _ => rfl
  have hscopes : m.scopes = n.scopes := h.read MethodScope.scopes fun _ _ _ => rfl
  simp only [Discovery.method, h.sentParameters, h.requestBody, h.responseSchema, hname, hscopes,
    h.method]

theorem operation (fuel : Nat) : OpenApi.operation fuel m = OpenApi.operation fuel n := by
  have hid : OpenApi.operationId m = OpenApi.operationId n :=
    h.read OpenApi.operationId fun _ _ _ => rfl
  have hkey : m.apiKeyRequired = n.apiKeyRequired :=
    h.read MethodScope.apiKeyRequired fun _ _ _ => rfl
  simp only [OpenApi.operation, OpenApi.responses, h.sentParameters,
    h.requestBody, h.responseSchema, hid, hkey, h.method]

end MethodScope.SameSource

/-! ## Documents -/

section Collecting

variable {α β γ : Type} {R : α → α → Prop}

/-- Related items with what was made of each. -/
def MadeAlike (R : α → α → Prop) (p p' : α × β) : Prop := R p.1 p'.1 ∧ p.2 = p'.2

/-- The same is made of related items one after the other, and put together to the same. -/
theorem collect_congr {f : α → Compile β} (hf : ∀ a a', R a a' → f a = f a') :
    ∀ {as as' : List α}, List.Forall₂ R as as' → ∀ {k k' : List (α × β) → Compile γ},
      (∀ ps ps', List.Forall₂ (MadeAlike R) ps ps' → k ps = k' ps') →
      (as.mapM fun a => do return (a, ← f a)) >>= k =
        (as'.mapM fun a => do return (a, ← f a)) >>= k'
  | _, _, .nil, k, k', hk => by simpa using hk [] [] .nil
  | _, _, .cons ha has, k, k', hk => by
    simp only [List.mapM_cons, bind_assoc, pure_bind, hf _ _ ha]
    refine bind_congr fun b => ?_
    exact collect_congr hf has fun ps ps' hps => hk _ _ (.cons ⟨ha, rfl⟩ hps)

end Collecting

theorem activeMethods_sameSource {g g' : List ApiConfig}
    (h : List.Forall₂ ApiConfig.SameSource g g') :
    List.Forall₂ MethodScope.SameSource (activeMethods g) (activeMethods g') := by
  refine List.rel_filter (fun m n hmn => ?_) (List.rel_flatMap h fun a b hab => hab.methodScopes)
  simp only [hmn.method]

theorem legacy_congr (fuel : Nat) {a b : ApiConfig} (hab : a.SameSource b) {g g' : List ApiConfig}
    (h : List.Forall₂ ApiConfig.SameSource g g') :
    Legacy.document fuel a g = Legacy.document fuel b g' := by
  have hheader : Legacy.header a = Legacy.header b := by
    rw [← hab.config]
    rfl
  refine collect_congr (fun m n hmn => hmn.entry fuel) (activeMethods_sameSource h)
    fun ps ps' hps => ?_
  have hmethods : ps.map (fun p => (p.1.fullName, p.2.method)) =
      ps'.map fun p => (p.1.fullName, p.2.method) :=
    map_eq_of_forall₂ (fun p p' hp => by
      rw [hp.1.read MethodScope.fullName fun _ _ _ => rfl, hp.2]) hps
  have hdescribed : (ps.filter fun p => !p.2.descriptor.isEmpty).map
        (fun p => (Legacy.backendMethod p.1, Json.obj p.2.descriptor)) =
      (ps'.filter fun p => !p.2.descriptor.isEmpty).map
        fun p => (Legacy.backendMethod p.1, Json.obj p.2.descriptor) :=
    map_eq_of_forall₂ (fun p p' hp => by
      rw [hp.1.read Legacy.backendMethod fun _ _ _ => rfl, hp.2])
      (List.rel_filter (fun p p' hp => by simp only [hp.2]) hps)
  simp only [hheader, hab.key, hmethods, hdescribed]

theorem discovery_congr (fuel : Nat) {a b : ApiConfig} (hab : a.SameSource b)
    {g g' : List ApiConfig} (h : List.Forall₂ ApiConfig.SameSource g g') :
    Discovery.document fuel a g = Discovery.document fuel b g' := by
  have hactive := activeMethods_sameSource h
  have hheader : Discovery.header a = Discovery.header b := by
    rw [← hab.config]
    rfl
  have hscopes : (activeMethods g).map (·.scopes.allScopes) =
      (activeMethods g').map (·.scopes.allScopes) :=
    map_eq_of_forall₂ (fun m n hmn => hmn.read (·.scopes.allScopes) fun _ _ _ => rfl) hactive
  have hauth :
      Discovery.authFields (activeMethods g) = Discovery.authFields (activeMethods g') := by
    rw [Discovery.authFields, Discovery.authFields, List.flatMap_def, List.flatMap_def, hscopes]
  have hbody : Discovery.body fuel a g = Discovery.body fuel b g' := by
    rw [Discovery.body, Discovery.body, hheader]
    refine bind_congr fun header => ?_
    dsimp only
    refine collect_congr (fun m n hmn => hmn.discovered fuel) hactive fun ps ps' hps => ?_
    have htree : Discovery.tree ps = Discovery.tree ps' :=
      foldl_eq_of_forall₂ (fun t p p' hp => by simp only [hp.1.method, hp.2]) hps _
    simp only [hauth, hab.key, htree]
  simp only [Discovery.document, hbody]

theorem openApi_congr (fuel : Nat) {a b : ApiConfig} (hab : a.SameSource b) {g g' : List ApiConfig}
    (h : List.Forall₂ ApiConfig.SameSource g g') :
    OpenApi.document fuel a g = OpenApi.document fuel b g' := by
  have hactive := activeMethods_sameSource h
  have hserver : OpenApi.serverUrl a = OpenApi.serverUrl b := by
    rw [← hab.config]
    rfl
  have hinfo : OpenApi.info a = OpenApi.info b := by
    rw [← hab.config]
    rfl
  have hkeys :
      (activeMethods g).map (·.apiKeyRequired) = (activeMethods g').map (·.apiKeyRequired) :=
    map_eq_of_forall₂ (fun m n hmn => hmn.read (·.apiKeyRequired) fun _ _ _ => rfl) hactive
  have hany :
      (activeMethods g).any (·.apiKeyRequired) = (activeMethods g').any (·.apiKeyRequired) := by
    simpa only [List.any_map, Function.comp_def, id] using congrArg (List.any · id) hkeys
  rw [OpenApi.document, OpenApi.document]
  dsimp only
  refine collect_congr (fun m n hmn => hmn.operation fuel) hactive fun ps ps' hps => ?_
  have hpaths : ps.foldl (fun paths p => OpenApi.addOperation paths p.1 p.2) [] =
      ps'.foldl (fun paths p => OpenApi.addOperation paths p.1 p.2) [] :=
    foldl_eq_of_forall₂ (fun paths p p' hp => by
      rw [OpenApi.addOperation, OpenApi.addOperation, hp.1.method, hp.2]) hps []
  simp only [hab.key, hpaths, hserver, hinfo, hany]

/-- A document is the same whichever of two places its catalogs come from, if the same is declared
in both. -/
theorem DocumentFormat.render_congr (format : DocumentFormat) (fuel : Nat) {g g' : List ApiConfig}
    (h : List.Forall₂ ApiConfig.SameSource g g') :
    format.render fuel g = format.render fuel g' := by
  cases h with
  | nil => rfl
  | @cons a b rest rest' hab hrest =>
    have hdocument : format.document fuel a (a :: rest) = format.document fuel b (b :: rest') := by
      cases format with
      | legacy => exact legacy_congr fuel hab (.cons hab hrest)
      | discovery => exact discovery_congr fuel hab (.cons hab hrest)
      | openApi => exact openApi_congr fuel hab (.cons hab hrest)
    simp only [render, hdocument]

end ServiceApi
