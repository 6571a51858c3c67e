import ServiceApi.Proofs.Config.Blanked
import ServiceApi.Proofs.Validated.Placeholders

/-! # Which methods share a route

Of two methods that answer to the same HTTP method, on paths that differ in the names of
placeholders alone, the second is refused, and said to have the path of the first. This is told by
the blanked paths, so it holds of methods in whose paths braces close in turn. -/

namespace ServiceApi

variable {fuel : Nat} {configs : List ApiConfig} {m m' : MethodScope} {ms : List MethodScope}
  {seen seen' : Validate.Seen} {verb path first second : String}

namespace MethodScope

/-- Where the method is declared. -/
def location (m : MethodScope) : String := m.method.endpoint.qualifiedName

/-- The methods answer to one HTTP method, on paths that differ in the names of placeholders
alone. -/
structure SharesRoute (m' m : MethodScope) : Prop where
  verb : m'.method.httpMethod = m.method.httpMethod
  path : Path.Alike m'.method.path.toList m.method.path.toList

theorem signature_eq_iff (h : Path.isBalanced m.method.path = true)
    (h' : Path.isBalanced m'.method.path = true) :
    m'.signature = m.signature ↔ m'.SharesRoute m := by
  rw [signature, signature, Prod.mk.injEq, Path.blanked_eq_iff h' h]
  exact ⟨fun h => ⟨h.1, h.2⟩, fun h => ⟨h.verb, h.path⟩⟩

end MethodScope

/-- The error is not about two methods that share a route. -/
def ApiError.isOffRoutes : ApiError → Bool
  | duplicateRestPath .. => false
  | _ => true

namespace Validate

/-- What has been noted of methods that were let through. -/
theorem foldlM_uniqueMethod_ok : ∀ {ms : List MethodScope} {seen seen' : Seen},
    ms.foldlM (uniqueMethod fuel) seen = .ok seen' →
      seen'.names = (ms.map fun m => (m.fullName, m.location)).reverse ++ seen.names ∧
        seen'.paths = (ms.map fun m => (m.signature, m.location)).reverse ++ seen.paths
  | [], _, _, h => by
    cases h
    exact ⟨rfl, rfl⟩
  | m :: ms, seen, seen', h => by
    rw [List.foldlM_cons] at h
    obtain ⟨next, hm, h⟩ := ok_of_bind h
    obtain ⟨-, -, -, rfl⟩ := uniqueMethod_eq_ok_iff.mp hm
    obtain ⟨hnames, hpaths⟩ := foldlM_uniqueMethod_ok h
    rw [hnames, hpaths, List.map_cons, List.map_cons, List.reverse_cons, List.reverse_cons,
      List.append_assoc, List.append_assoc]
    exact ⟨rfl, rfl⟩

/-- A method is refused for its route if it is well named, its name is new, and its route is not.
Nothing else that is wrong with it is looked at before. -/
theorem uniqueMethod_eq_duplicateRestPath_iff :
    uniqueMethod fuel seen m = .error (.duplicateRestPath verb path first second) ↔
      isMethodName m.method.name = true ∧ m.fullName ∉ seen.names.map Prod.fst ∧
        seen.paths.lookup m.signature = some first ∧
        verb = m.method.httpMethod ∧ path = m.method.path ∧ second = m.location := by
  constructor
  · intro h
    unfold uniqueMethod at h
    dsimp only at h
    split at h
    · cases h
    · rename_i hname
      split at h
      · cases h
      · rename_i hnew
        split at h
        · rename_i hpath
          cases h
          exact ⟨by simpa using hname, Entries.lookup_eq_none_iff.mp hnew, hpath, rfl, rfl, rfl⟩
        · have hoff : FailsBy ApiError.isOffRoutes (method fuel m) :=
            method_failsBy_of fuel (fun e he => by cases e <;> first | rfl | cases he)
              fun _ _ _ => rfl
          cases hoff.bind (fun _ => FailsBy.ok _) _ h
  · rintro ⟨hname, hnew, hpath, rfl, rfl, rfl⟩
    have hpath :
        seen.paths.lookup (m.method.httpMethod, Path.blanked m.method.path) = some first := hpath
    simp only [uniqueMethod, hname, Entries.lookup_eq_none_iff.mpr hnew, hpath]
    rfl

/-- Configurations of one API are refused for a route if one of their methods is. Others are refused
for what they differ in, or for their name. -/
theorem configs_eq_duplicateRestPath_iff :
    Validate.configs fuel configs = .error (.duplicateRestPath verb path first second) ↔
      (∀ a ∈ configs, ∀ b ∈ configs, a.Agrees b) ∧
        (∀ a ∈ configs, a.name = internalApiName ∨ isApiName a.name = true) ∧
        (activeMethods configs).foldlM (uniqueMethod fuel) {} =
          .error (.duplicateRestPath verb path first second) := by
  cases configs with
  | nil => exact iff_of_false nofun fun h => by cases h.2.2
  | cons leader others =>
    have hleader : leader ∈ leader :: others := List.mem_cons_self
    rcases configs_cons_cases fuel leader others with
      ⟨hnot, e, hgroup, he⟩ | ⟨⟨hagree, hname⟩, hmethods⟩
    · rw [he]
      refine iff_of_false (fun h => ?_) fun h => hnot ⟨fun other hother => ?_, h.2.1 leader hleader⟩
      · cases h
        cases hgroup
      · exact h.1 leader hleader other (List.mem_cons_of_mem _ hother)
    · have hall : ∀ a ∈ leader :: others, leader.Agrees a :=
        List.forall_mem_cons.mpr ⟨.refl leader, hagree⟩
      rw [hmethods, and_iff_right fun a ha b hb => (hall a ha).symm.trans (hall b hb),
        and_iff_right fun a ha => (hall a ha).name ▸ hname]
      cases (activeMethods (leader :: others)).foldlM (uniqueMethod fuel) {} <;> simp [Except.map]

/-- The methods pass one after the other: each one for itself, all with names of their own, and no
two with one route. -/
structure Passes (fuel : Nat) (ms : List MethodScope) : Prop where
  methods : ∀ m ∈ ms, isMethodName m.method.name = true ∧ method fuel m = .ok ()
  names : (ms.map (·.fullName)).Nodup
  routes : ms.Pairwise fun m' m => ¬ m'.SharesRoute m

/-- The method `m` comes after methods that pass, and would be the next, were it not for the route
of `m'`. -/
structure Collides (fuel : Nat) (ms : List MethodScope) (m' m : MethodScope) : Prop where
  exists_split : ∃ before after, ms = before ++ m :: after ∧ Passes fuel before ∧ m' ∈ before ∧
    m.fullName ∉ before.map (·.fullName)
  named : isMethodName m.method.name = true
  route : m'.SharesRoute m

theorem nodup_signatures_iff (h : ∀ m ∈ ms, Path.isBalanced m.method.path = true) :
    (ms.map (·.signature)).Nodup ↔ ms.Pairwise fun m' m => ¬ m'.SharesRoute m := by
  rw [List.Nodup, List.pairwise_map]
  exact List.Pairwise.iff_of_mem
    fun hm' hm => not_congr (MethodScope.signature_eq_iff (h _ hm) (h _ hm'))

theorem passes_iff (h : ∀ m ∈ ms, Path.isBalanced m.method.path = true) :
    Passes fuel ms ↔ ∃ seen, ms.foldlM (uniqueMethod fuel) {} = .ok seen := by
  rw [foldlM_uniqueMethod_eq_ok_iff, nodup_signatures_iff h]
  constructor
  · intro hpass
    exact ⟨hpass.methods, ⟨hpass.names, List.disjoint_nil_right _⟩, hpass.routes,
      List.disjoint_nil_right _⟩
  · rintro ⟨hmethods, ⟨hnames, -⟩, hroutes, -⟩
    exact ⟨hmethods, hnames, hroutes⟩

/-- A signature is looked up where the one method that has it is declared. -/
theorem lookup_paths_iff (hms : ms.foldlM (uniqueMethod fuel) {} = .ok seen) :
    seen.paths.lookup m.signature = some first ↔ ∃ m' ∈ ms, m'.signature = m.signature ∧
      m'.location = first := by
  have hpaths : seen.paths = (ms.map fun m => (m.signature, m.location)).reverse :=
    (foldlM_uniqueMethod_ok hms).2.trans (List.append_nil _)
  obtain ⟨-, -, hdistinct, -⟩ := (foldlM_uniqueMethod_eq_ok_iff ms {}).mp ⟨seen, hms⟩
  have hnodup : (seen.paths.map Prod.fst).Nodup := by
    rw [hpaths, List.map_reverse, List.map_map, List.nodup_reverse]
    exact hdistinct
  have hmem : (m.signature, first) ∈ seen.paths ↔ ∃ m' ∈ ms, m'.signature = m.signature ∧
      m'.location = first := by
    rw [hpaths, List.mem_reverse, List.mem_map]
    simp only [Prod.mk.injEq]
  -- Pairs are compared part by part, which comes to the same as comparing them as a whole.
  have hbeq : (instBEqProd : BEq (String × String)) = instBEqOfDecidableEq :=
    lawful_beq_subsingleton _ _
  rw [← hmem, hbeq]
  exact ⟨Entries.mem_of_lookup, Entries.lookup_of_mem hnodup⟩

theorem mem_names_iff (hms : ms.foldlM (uniqueMethod fuel) {} = .ok seen) {name : String} :
    name ∈ seen.names.map Prod.fst ↔ name ∈ ms.map (·.fullName) := by
  have hnames : seen.names = (ms.map fun m => (m.fullName, m.location)).reverse :=
    (foldlM_uniqueMethod_ok hms).1.trans (List.append_nil _)
  rw [hnames, List.map_reverse, List.mem_reverse, List.map_map]
  rfl

/-- Methods are refused for a route if one of them collides with another. -/
theorem foldlM_eq_duplicateRestPath_iff (h : ∀ m ∈ ms, Path.isBalanced m.method.path = true) :
    ms.foldlM (uniqueMethod fuel) {} = .error (.duplicateRestPath verb path first second) ↔
      ∃ m' m, Collides fuel ms m' m ∧ verb = m.method.httpMethod ∧ path = m.method.path ∧
        first = m'.location ∧ second = m.location := by
  rw [foldlM_eq_error_iff]
  constructor
  · rintro ⟨before, m, after, seen, rfl, hbefore, hm⟩
    obtain ⟨hnamed, hnew, hlookup, hverb, hpath, hsecond⟩ :=
      uniqueMethod_eq_duplicateRestPath_iff.mp hm
    obtain ⟨m', hm', hsignature, hfirst⟩ := (lookup_paths_iff hbefore).mp hlookup
    obtain ⟨hbalanced, hafter⟩ := List.forall_mem_append.mp h
    refine ⟨m', m,
      ⟨⟨before, after, rfl, (passes_iff hbalanced).mpr ⟨seen, hbefore⟩, hm', ?_⟩, hnamed, ?_⟩,
      hverb, hpath, hfirst.symm, hsecond⟩
    · exact mt (mem_names_iff hbefore).mpr hnew
    · exact (MethodScope.signature_eq_iff (hafter m List.mem_cons_self) (hbalanced m' hm')).mp
        hsignature
  · rintro ⟨m', m, ⟨⟨before, after, rfl, hpasses, hm', hnew⟩, hnamed, hroute⟩, hverb,
      hpath, hfirst, hsecond⟩
    obtain ⟨hbalanced, hafter⟩ := List.forall_mem_append.mp h
    obtain ⟨seen, hbefore⟩ := (passes_iff hbalanced).mp hpasses
    have hsignature :=
      (MethodScope.signature_eq_iff (hafter m List.mem_cons_self) (hbalanced m' hm')).mpr hroute
    refine ⟨before, m, after, seen, rfl, hbefore, uniqueMethod_eq_duplicateRestPath_iff.mpr
      ⟨hnamed, mt (mem_names_iff hbefore).mp hnew, ?_, hverb, hpath, hsecond⟩⟩
    exact (lookup_paths_iff hbefore).mpr ⟨m', hm', hsignature, hfirst.symm⟩

/-- Blanked paths are paths without the names of their placeholders where braces close in turn, and
nowhere else. Where they do in all paths of a group, what passes shares no routes; and it is refused
for a route just if one of its methods has that of another, by the path of the one and the locations
of both. -/
theorem routes_collide_up_to_placeholders (fuel : Nat) (configs : List ApiConfig) :
    (∀ path : String,
      Path.Blanks path.toList ((Path.placeholders path).map String.toList)
        (Path.blanked path).toList ↔
      Path.isBalanced path = true) ∧
    ((∀ m ∈ activeMethods configs, Path.isBalanced m.method.path = true) →
      (Validate.configs fuel configs = .ok () →
        (activeMethods configs).Pairwise fun m' m => ¬ m'.SharesRoute m) ∧
      ∀ verb path first second,
        Validate.configs fuel configs = .error (.duplicateRestPath verb path first second) ↔
          (∀ a ∈ configs, ∀ b ∈ configs, a.Agrees b) ∧
            (∀ a ∈ configs, a.name = internalApiName ∨ isApiName a.name = true) ∧
            ∃ m' m, Collides fuel (activeMethods configs) m' m ∧ verb = m.method.httpMethod ∧
              path = m.method.path ∧ first = m'.location ∧ second = m.location) := by
  refine ⟨fun _ => Path.blanks_blanked_iff,
    fun h => ⟨fun hvalid => ?_, fun verb path first second => ?_⟩⟩
  · exact (nodup_signatures_iff h).mp (configs_eq_ok_iff.mp hvalid).signatures
  · rw [configs_eq_duplicateRestPath_iff, foldlM_eq_duplicateRestPath_iff h]

end Validate

/-- A method that shows what there is on a path. -/
def exhibit (name path : String) (parameters : List String) : MethodConfig :=
  { endpoint := { serviceClass := "Gallery", declaringClass := "Gallery", name,
                  parameterTypes := parameters.map fun _ => .raw "String" }
    name := "gallery." ++ name, httpMethod := "GET", path, impliedResource := none
    parameters := parameters.map fun p => { name := some p, type := .raw "String" } }

def galleryConfig (first second : MethodConfig) : ApiConfig :=
  (ApiConfig.default ⟨"gallery", .builtin⟩ {} "Gallery").setMethods <|
    (OrderedMap.empty.insert first.endpoint.key first).insert second.endpoint.key second

namespace Validate

/-- Rooms and halls are told apart by what their placeholders are called, which is not enough. -/
theorem routes_collide_up_to_placeholders_rooms :
    let room := exhibit "room" ("rooms" ++ "/" ++ Path.placeholder "room") ["room"]
    let hall := exhibit "hall" ("rooms" ++ "/" ++ Path.placeholder "hall") ["hall"]
    let config := galleryConfig room hall
    (∀ m ∈ activeMethods [config], Path.isBalanced m.method.path = true) ∧
      Validate.configs 9 [config] =
        .error (.duplicateRestPath "GET" hall.path "Gallery.room" "Gallery.hall") := by
  intro room hall config
  have hmethods : activeMethods [config] = [⟨config, room⟩] ++ [⟨config, hall⟩] := by rfl
  have hbalanced :
      ∀ m ∈ activeMethods [config], Path.isBalanced m.method.path = true := by decide +kernel
  obtain ⟨⟨⟩, hroom⟩ : ∃ r, method 9 ⟨config, room⟩ = .ok r := exists_of_isOk (by decide +kernel)
  have hpasses : Passes 9 [⟨config, room⟩] :=
    ⟨List.forall_mem_singleton.mpr ⟨by decide +kernel, hroom⟩, List.nodup_singleton _,
      List.pairwise_singleton _ _⟩
  have hroute : MethodScope.SharesRoute ⟨config, room⟩ ⟨config, hall⟩ :=
    ⟨rfl, Path.alike_iff.mpr (by decide +kernel)⟩
  have hcollides : Collides 9 (activeMethods [config]) ⟨config, room⟩ ⟨config, hall⟩ :=
    ⟨⟨_, [], hmethods, hpasses, List.mem_singleton_self _, by decide +kernel⟩,
      by decide +kernel, hroute⟩
  obtain ⟨-, hrefused⟩ := (routes_collide_up_to_placeholders 9 [config]).2 hbalanced
  refine ⟨hbalanced,
    (hrefused _ _ _ _).mpr ⟨?_, ?_, _, _, hcollides, by rfl, by rfl, by rfl, by rfl⟩⟩
  · simp [ApiConfig.Agrees.refl]
  · simp only [List.forall_mem_singleton]
    exact .inr (by decide +kernel)

/-- A closing brace that closes nothing makes a path of its own, and yet the path is taken for the
one without it. A placeholder with an opening brace in its name makes no path of its own, and yet it
is taken for two placeholders. -/
theorem stray_and_nested_braces_are_misread :
    let plain := exhibit "plain" "rooms" []
    let stray := exhibit "stray" "rooms\x7d" []
    let config := galleryConfig plain stray
    let nested := exhibit "nested" ("rooms" ++ "/" ++ Path.placeholder "a\x7bb") ["a\x7bb"]
    let single := exhibit "single" ("rooms" ++ "/" ++ Path.placeholder "c") ["c"]
    let config' := galleryConfig nested single
    (activeMethods [config] = [⟨config, plain⟩, ⟨config, stray⟩] ∧
        ¬ MethodScope.SharesRoute ⟨config, plain⟩ ⟨config, stray⟩ ∧
        Validate.configs 9 [config] =
          .error (.duplicateRestPath "GET" stray.path "Gallery.plain" "Gallery.stray")) ∧
      activeMethods [config'] = [⟨config', nested⟩, ⟨config', single⟩] ∧
        MethodScope.SharesRoute ⟨config', nested⟩ ⟨config', single⟩ ∧
          Validate.configs 9 [config'] = .ok () := by
  intro plain stray config nested single config'
  obtain ⟨⟨⟩, hvalid⟩ : ∃ r, Validate.configs 9 [config'] = .ok r :=
    exists_of_isOk (by decide +kernel)
  obtain ⟨seen, hseen⟩ : ∃ seen, [⟨config, plain⟩].foldlM (uniqueMethod 9) {} = .ok seen :=
    exists_of_isOk (by decide +kernel)
  have hrefused : uniqueMethod 9 seen ⟨config, stray⟩ =
      .error (.duplicateRestPath "GET" stray.path "Gallery.plain" "Gallery.stray") := by
    refine uniqueMethod_eq_duplicateRestPath_iff.mpr ⟨by decide +kernel, ?_, ?_, rfl, rfl, rfl⟩
    · exact mt (mem_names_iff hseen).mp (by decide +kernel)
    · exact (lookup_paths_iff hseen).mpr ⟨_, List.mem_singleton_self _, by decide +kernel, rfl⟩
  have hmethods : activeMethods [config] = [⟨config, plain⟩] ++ [⟨config, stray⟩] := by rfl
  refine ⟨⟨hmethods, fun hroute => ?_, ?_⟩, by rfl,
    ⟨rfl, Path.alike_iff.mpr (by decide +kernel)⟩, hvalid⟩
  · exact absurd (Path.alike_iff.mp hroute.path) (by decide +kernel)
  · refine configs_eq_duplicateRestPath_iff.mpr ⟨by simp [ApiConfig.Agrees.refl], ?_, ?_⟩
    · simp only [List.forall_mem_singleton]
      exact .inr (by decide +kernel)
    · exact foldlM_eq_error_iff.mpr ⟨_, _, [], seen, hmethods, hseen, hrefused⟩

end Validate

end ServiceApi
