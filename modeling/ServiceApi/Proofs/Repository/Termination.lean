import Mathlib.Data.Prod.Lex
import ServiceApi.Proofs.Repository.Calls
import ServiceApi.Proofs.Schema.Answers

/-! # Compiling comes to an end

Every class may refer to every other, itself included. Compiling still comes to an end where the
types that it can get to are only so many: a key that is not passed over has its slot taken, so the
empty slots become fewer with each. A call fills no slot twice, be it that it fails.

Names are another matter. They are put together from types that need not be among those, so that
none of these is named after itself is not enough: a transformer may lead to ever larger ones. -/

namespace ServiceApi

open Schema Compile
open Relation (ReflTransGen TransGen)

variable {c : Catalog}

/-! ## There is a filling -/

/-- Keys can be filled that need only each other and whose plans there is fuel for. The induction is
on those of them that have no slot. -/
theorem Fills.total {keysOf : Set SchemaKey} (hfinite : keysOf.Finite)
    (hneeds : ∀ key ∈ keysOf, ∀ fuel, (planOf c fuel key).NeedsOnly (· ∈ keysOf))
    (hplans : ∀ key ∈ keysOf, Answers fun n => (planOf c n key).outcome) (slots : Slots)
    (keys : List SchemaKey) (hkeys : ∀ key ∈ keys, key ∈ keysOf) : ∃ r, Fills c slots keys r := by
  induction hm : (keysOf \ {k | slots.contains k = true}).ncard using Nat.strongRecOn
    generalizing slots keys with
  | ind m ihm =>
    induction keys with
    | nil => exact ⟨_, .nil⟩
    | cons key keys ih =>
      obtain ⟨hkey, hrest⟩ := List.forall_mem_cons.mp hkeys
      by_cases hc : slots.contains key = true
      · obtain ⟨r, h⟩ := ih hrest
        exact ⟨r, .known hc h⟩
      · have hless {slots' : Slots}
            (hmore : ∀ k, slots.contains k = true → slots'.contains k = true)
            (htaken : slots'.contains key = true) :
            (keysOf \ {k | slots'.contains k = true}).ncard < m :=
          hm ▸ ncard_sdiff_lt hfinite hmore hkey hc htaken
        rw [Bool.not_eq_true] at hc
        obtain ⟨o, ho, n, hn⟩ := hplans key hkey
        have hbefore :
            ∀ k, slots.contains k = true → (slots.insert key .building).contains k = true :=
          fun k hk => OrderedMap.contains_insert_of_contains hk key _
        obtain ⟨r, hr⟩ := ihm _ (hless hbefore (slots.contains_insert_self key _)) _
          (planOf c n key).needs (hneeds key hkey n) rfl
        cases r with
        | error e => exact ⟨_, .needFails n hc hr⟩
        | ok slots₁ =>
          cases o with
          | error e =>
            exact ⟨_, .fails n hc hr (hn n le_rfl) fun he => ho (congrArg Except.error he)⟩
          | ok s =>
            have hafter :
                ∀ k, slots.contains k = true → (slots₁.insert key (.done s)).contains k = true :=
              fun k hk => OrderedMap.contains_insert_of_contains
                ((hr.grows slots₁ rfl).1.contains (hbefore k hk)) key _
            obtain ⟨r, hrest⟩ :=
              ihm _ (hless hafter (slots₁.contains_insert_self key _)) _ keys hrest rfl
            exact ⟨r, .fills n hc hr (hn n le_rfl) hrest⟩

/-! ## What is written down -/

namespace Compile

variable {α β : Type} {P : SchemaKey → Prop} {m : Compile α}

/-- `m` writes down keys of `P` that have no slot, each once, and if it succeeds, these are the keys
of the slots that there are more. -/
def WritesDown (P : SchemaKey → Prop) (m : Compile α) : Prop :=
  ∀ s, ∃ new : List SchemaKey, (m.result s).2.installed = s.installed ++ new ∧ new.Nodup ∧
    (∀ key ∈ new, P key ∧ key ∉ s.slots.keys) ∧
    ∀ a, (m.result s).1 = .ok a → (m.result s).2.slots.keys = s.slots.keys ++ new

namespace WritesDown

theorem nothing (h : ∀ s, (m.result s).2 = s) : WritesDown P m := by
  intro s
  rw [h s]
  exact ⟨[], (List.append_nil _).symm, List.nodup_nil, fun _ hk => (List.not_mem_nil hk).elim,
    fun _ _ => (List.append_nil _).symm⟩

theorem bind {f : α → Compile β} (hm : WritesDown P m) (hf : ∀ a, WritesDown P (f a)) :
    WritesDown P (m >>= f) := by
  intro s
  obtain ⟨new, hinstalled, hnodup, hnew, hslots⟩ := hm s
  rw [result_bind]
  rcases hr : m.result s with ⟨r, t⟩
  rw [hr] at hinstalled hslots
  cases r with
  | error e => exact ⟨new, hinstalled, hnodup, hnew, fun a ha => by cases ha⟩
  | ok a =>
    have hkeys : t.slots.keys = s.slots.keys ++ new := hslots a rfl
    obtain ⟨more, hinstalled', hnodup', hmore, hslots'⟩ := hf a t
    rw [hkeys] at hmore hslots'
    refine ⟨new ++ more, ?_, ?_, fun key hkey => ?_, fun b hb => ?_⟩
    · rw [hinstalled', hinstalled, List.append_assoc]
    · refine List.nodup_append.mpr ⟨hnodup, hnodup', fun k hk k' hk' he => ?_⟩
      exact (hmore k' hk').2 (List.mem_append_right _ (he ▸ hk))
    · rcases List.mem_append.mp hkey with hkey | hkey
      · exact hnew key hkey
      · exact ⟨(hmore key hkey).1, fun hs => (hmore key hkey).2 (List.mem_append_left _ hs)⟩
    · rw [hslots' b hb, List.append_assoc]

theorem forM {f : SchemaKey → Compile PUnit} : ∀ {keys : List SchemaKey},
    (∀ key ∈ keys, WritesDown P (f key)) → WritesDown P (keys.forM f)
  | [], _ => nothing fun _ => rfl
  | _ :: _, h =>
    (h _ List.mem_cons_self).bind fun _ => forM fun key hkey => h key (List.mem_cons_of_mem _ hkey)

theorem install {key : SchemaKey} (hkey : P key) (slot : Slot) :
    WritesDown P (modify (·.install key slot) : Compile PUnit) := by
  intro s
  rw [result_modify]
  by_cases hc : s.slots.contains key = true
  · refine ⟨[], ?_, List.nodup_nil, fun _ hk => (List.not_mem_nil hk).elim, fun _ _ => ?_⟩
    · rw [Repository.install, if_pos hc, List.append_nil]
    · rw [Repository.install, OrderedMap.keys_insert, if_pos (OrderedMap.contains_iff_mem.mp hc),
        List.append_nil]
  · have hnew : key ∉ s.slots.keys := fun hmem => hc (OrderedMap.contains_iff_mem.mpr hmem)
    refine ⟨[key], ?_, List.nodup_singleton key, fun k hk => ?_, fun _ _ => ?_⟩
    · rw [Repository.install, if_neg hc]
    · rw [List.mem_singleton.mp hk]
      exact ⟨hkey, hnew⟩
    · rw [Repository.install, OrderedMap.keys_insert, if_neg hnew]

/-- What is taken back on failure stays written down. -/
theorem behindPlaceholder {key : SchemaKey} (hkey : P key) (hm : WritesDown P m) :
    WritesDown P (behindPlaceholder key m) := by
  refine (install hkey .building).bind fun _ s => ?_
  obtain ⟨new, hinstalled, hnodup, hnew, hslots⟩ := hm s
  rw [result_tryCatch]
  rcases hr : m.result s with ⟨r, t⟩
  rw [hr] at hinstalled hslots
  cases r with
  | ok a => exact ⟨new, hinstalled, hnodup, hnew, hslots⟩
  | error e => exact ⟨new, hinstalled, hnodup, hnew, fun a ha => by cases ha⟩

theorem carryOut {p : Plan α} {meet : SchemaKey → Compile Unit} (hp : p.NeedsOnly P)
    (hmeet : ∀ key, P key → WritesDown P (meet key)) : WritesDown P (p.carryOut meet) :=
  (forM fun key hkey => hmeet key (hp key hkey)).bind fun _ => nothing fun _ => rfl

end WritesDown

end Compile

namespace Schema

variable {P : SchemaKey → Prop}

theorem build_writesDown {fuel : Nat} {key : SchemaKey} (hneeds : (ownPlan c fuel key).NeedsOnly P)
    (hkey : P key) {meet : SchemaKey → Compile Unit}
    (hmeet : ∀ key, P key → WritesDown P (meet key)) :
    WritesDown P (build c fuel key meet) := by
  unfold ownPlan at hneeds
  unfold build
  cases hft : c.fieldType? key.type with
  | none => exact .nothing fun _ => rfl
  | some type =>
    rw [hft] at hneeds
    cases type with
    | enum => exact .nothing fun _ => rfl
    | array => exact .behindPlaceholder hkey (.carryOut hneeds hmeet)
    | object => exact .behindPlaceholder hkey (.carryOut hneeds hmeet)
    | _ => exact .nothing fun _ => rfl

theorem ensure_writesDown (hneeds : ∀ key fuel, P key → (ownPlan c fuel key).NeedsOnly P)
    (fuel : Nat) (key : SchemaKey) (hkey : P key) : WritesDown P (ensure c fuel key) := by
  induction fuel generalizing key with
  | zero =>
    refine .nothing fun s => ?_
    by_cases hc : s.slots.contains key = true
    · rw [ensure_of_contains c 0 hc]
    · rw [ensure_zero c (by simpa using hc)]
  | succ fuel ih =>
    rw [ensure]
    refine .bind (.nothing fun _ => rfl) fun s => ?_
    split
    · exact .nothing fun _ => rfl
    · split
      · exact .install hkey _
      · split
        · exact .install hkey _
        · exact (build_writesDown (hneeds key fuel hkey) hkey ih).bind fun _ => .install hkey _

end Schema

/-! ## Calls -/

namespace Repository

variable {P : Catalog → Prop} {repo : Repository} {config : ApiConfig} {rules : SerializationRules}
  {t root : TypeExpr}

theorem slotsWith_answers (h : c.Bounded rules t) (hroot : c.schemaType rules t = .ok root)
    (s : Repository) : ∃ r, r ≠ .error .outOfFuel ∧
      ∃ n, ∀ fuel ≥ n, slotsWith c fuel ⟨rules, root⟩ s = r := by
  have hfinite : {key | Needed c rules t key}.Finite :=
    (h.types.image (SchemaKey.mk rules)).subset fun key hkey => ⟨key.type, hkey.2, by rw [← hkey.1]⟩
  have hplans : ∀ key, Needed c rules t key → Answers fun n => (planOf c n key).outcome := by
    rintro key ⟨rfl, hreaches⟩
    exact planOf_answers h hreaches
  obtain ⟨r, hr⟩ := Fills.total hfinite
    (fun key hkey fuel => (planOf_needs c fuel key).mono fun _ => Needed.follow hkey) hplans s.slots
    [⟨rules, root⟩] fun key hkey => by
      rw [List.mem_singleton.mp hkey]
      exact ⟨rfl, root, hroot, .refl⟩
  obtain ⟨n, hn⟩ := hr.slotsAfter_eq
  exact ⟨r, hr.ne_outOfFuel, n, fun fuel hfuel =>
    (slotsAfter_forM_singleton _ _ _).symm.trans (hn fuel hfuel s rfl)⟩

/-- With enough fuel a call leaves everything as it is, or the slots that compiling leaves. -/
theorem getOrAdd_answers (hs : Sound P repo) (hc : P config.catalog)
    (h : config.catalog.Bounded config.rules t) :
    ∃ n r u, (∀ fuel ≥ n, (getOrAdd fuel t config).result repo = (r, u)) ∧ r ≠ .error .outOfFuel ∧
      (u = repo ∨ ∃ root, config.catalog.schemaType config.rules t = .ok root ∧
        slotsWith config.catalog n ⟨config.rules, root⟩ repo = .ok u.slots) := by
  cases hroot : config.catalog.schemaType config.rules t with
  | error e =>
    have hne := (config.catalog.schemaType_failsBy config.rules t).ne_outOfFuel
    rw [hroot] at hne
    exact ⟨0, .error e, repo, fun fuel _ => getOrAdd_of_type_error fuel repo hroot,
      error_ne_outOfFuel hne, .inl rfl⟩
  | ok root =>
    obtain ⟨r, hr, n, hn⟩ := slotsWith_answers h hroot repo
    cases r with
    | error e =>
      exact ⟨n, .error e, repo, fun fuel hfuel => getOrAdd_of_slots_error hs hroot (hn fuel hfuel),
        error_ne_outOfFuel hr, .inl rfl⟩
    | ok slots =>
      obtain ⟨a, u, ha, hu, hindexes, -⟩ :=
        indexes_of_slots_ok hs hc (hn n le_rfl) config.key.withoutRoot
      refine ⟨n, .ok a, u, fun fuel hfuel => getOrAdd_of_indexed hs hroot (hn fuel hfuel) ha hu,
        fun he => (by cases he), .inr ⟨root, rfl, ?_⟩⟩
      rw [hindexes.slots]
      exact hn n le_rfl

/-- Keys of the same rules are as many types. -/
theorem exists_types {new : List SchemaKey} (hnodup : new.Nodup)
    (hnew : ∀ key ∈ new, Needed c rules t key) :
    ∃ types : List TypeExpr, new = types.map (SchemaKey.mk rules) ∧ types.Nodup ∧
      ∀ u ∈ types, c.Reaches rules t u := by
  have hmap : (new.map SchemaKey.type).map (SchemaKey.mk rules) = new := by
    rw [List.map_map]
    refine (List.map_congr_left fun key hkey => ?_).trans (List.map_id new)
    rw [Function.comp, ← (hnew key hkey).1, id]
  exact ⟨new.map SchemaKey.type, hmap.symm, (hmap.symm ▸ hnodup).of_map _,
    List.forall_mem_map.mpr fun key hkey => (hnew key hkey).2⟩

/-- However classes refer to each other, a call answers if only there is fuel enough, as long as the
type does not expand without end. What it adds is one slot for each of some types that the type
leads to; and be it that it fails, or that the fuel runs out, it has filled no more than one for
each. -/
theorem compiling_comes_to_an_end (hrepo : Reachable repo)
    (h : config.catalog.Bounded config.rules t) :
    (∃ n r u, (∀ fuel ≥ n, (getOrAdd fuel t config).result repo = (r, u)) ∧ r ≠ .error .outOfFuel ∧
      ∃ new : List TypeExpr, u.slots.keys = repo.slots.keys ++ new.map (SchemaKey.mk config.rules) ∧
        new.Nodup ∧ ∀ v ∈ new, config.catalog.Reaches config.rules t v) ∧
    ∀ fuel root, config.catalog.schemaType config.rules t = .ok root →
      ∃ tried : List TypeExpr,
        ((ensure config.catalog fuel ⟨config.rules, root⟩).result repo).2.installed =
          tried.map (SchemaKey.mk config.rules) ∧
        tried.Nodup ∧ ∀ v ∈ tried, config.catalog.Reaches config.rules t v := by
  have hs := hrepo.sound
  have hwrites {root : TypeExpr}
      (hroot : config.catalog.schemaType config.rules t = .ok root) (fuel : Nat) :
      WritesDown (Needed config.catalog config.rules t)
        (ensure config.catalog fuel ⟨config.rules, root⟩) :=
    ensure_writesDown (fun key fuel hkey => (ownPlan_needs _ fuel key).mono fun _ => hkey.follow)
      fuel _ ⟨rfl, root, hroot, .refl⟩
  constructor
  · obtain ⟨n, r, u, hresult, hr, rfl | ⟨root, hroot, hslots⟩⟩ := getOrAdd_answers hs trivial h
    · exact ⟨n, r, u, hresult, hr, [], (List.append_nil _).symm, List.nodup_nil,
        fun _ hv => (List.not_mem_nil hv).elim⟩
    · obtain ⟨new, -, hnodup, hnew, hkeys⟩ := hwrites hroot n repo
      obtain ⟨s, hresult', hslots⟩ := result_of_slotsAfter_ok hslots
      rw [hresult', hslots] at hkeys
      obtain ⟨types, rfl, htypes⟩ := exists_types hnodup fun key hkey => (hnew key hkey).1
      exact ⟨n, r, u, hresult, hr, types, hkeys _ rfl, htypes⟩
  · intro fuel root hroot
    obtain ⟨tried, hinstalled, hnodup, htried, -⟩ := hwrites hroot fuel repo
    rw [hinstalled, hs.idle, List.nil_append]
    exact exists_types hnodup fun key hkey => (htried key hkey).1

/-- Parts that are put together from parts, each in a box. -/
def assembly : Catalog :=
  [{ name := "Item", properties := [{ name := "usedIn", type := .raw "Part" }] },
   { name := "Part", superclass := some (.raw "Item"),
     properties := [{ name := "parts", type := .named "List" [.named "Box" [.raw "Part"]] },
       { name := "count", type := .primitive .int }] },
   { name := "Box", typeParams := ["T"],
     properties := [{ name := "content", type := .var "T" }] }].foldl
    Catalog.addClass .builtin

def assemblyConfig : ApiConfig := .default ⟨"assembly", assembly⟩ {} "Service"

theorem compiling_comes_to_an_end_assembly :
    let repo := ({} : Repository).after [.getOrAdd 9 (.raw "Object") assemblyConfig]
    Reachable repo ∧ assemblyConfig.catalog.Bounded assemblyConfig.rules (.raw "Part") ∧
    ∃ n r u, (∀ fuel ≥ n, (getOrAdd fuel (.raw "Part") assemblyConfig).result repo = (r, u)) ∧
      r ≠ .error .outOfFuel ∧
      ∃ new : List TypeExpr,
        u.slots.keys = repo.slots.keys ++ new.map (SchemaKey.mk assemblyConfig.rules) ∧
        new.Nodup := by
  intro repo
  have hrepo : Reachable repo := ⟨_, rfl⟩
  have hbounded : assemblyConfig.catalog.Bounded assemblyConfig.rules (.raw "Part") := by
    let box : TypeExpr := .named "Box" [.raw "Part"]
    refine Catalog.bounded_of_boundedBy 9 [.named "List" [box], box, .raw "Part", .raw "Item",
      .primitive .int] ?_
    decide +kernel
  obtain ⟨⟨n, r, u, hresult, hr, new, hkeys, hnodup, -⟩, -⟩ :=
    compiling_comes_to_an_end hrepo hbounded
  exact ⟨hrepo, hbounded, n, r, u, hresult, hr, new, hkeys, hnodup⟩

/-! ## Names that do not end -/

/-- Lists are rendered as texts. But `Grow` is rendered as a list of what has grown, so its lists
are named after ever larger ones. -/
def growth : Catalog :=
  let box : ClassDecl := { name := "Box", typeParams := ["T"] }
  let grow : ClassDecl := { name := "Grow", typeParams := ["T"], transformer := some "GrowToList" }
  let listToText : TransformerDecl :=
    { name := "ListToText", source := .named "List" [.var "E"], target := .raw "String" }
  let growToList : TransformerDecl :=
    { name := "GrowToList", source := .named "Grow" [.var "T"],
      target := .named "List" [.named "Grow" [.named "Grow" [.var "T"]]] }
  (((Catalog.builtin.addClass box).addClass grow).addTransformer listToText).addTransformer
    growToList

def growthConfig : ApiConfig :=
  { ApiConfig.default ⟨"growth", growth⟩ {} "Service" with rules := ⟨[⟨"List", "ListToText"⟩]⟩ }

/-- The type `Grow<…<Grow<String>>>`. -/
def grown : Nat → TypeExpr
  | 0 => .raw "String"
  | n + 1 => .named "Grow" [grown n]

def growing (n : Nat) : TypeExpr := .named "List" [grown (n + 1)]

/-- The type `Box<List<Grow<String>>>`. -/
def boxed : TypeExpr := .named "Box" [growing 0]

theorem growing_endless (n : Nat) : ∃ item, growth.arrayItem? (growing n) = some item ∧
    growth.schemaType growthConfig.rules item = .ok (growing (n + 1)) :=
  ⟨grown (n + 1), rfl, rfl⟩

theorem nameOf_boxed (fuel : Nat) :
    nameOf growth growthConfig.rules fuel boxed = .error .outOfFuel := by
  have hgrowing := nameOf_of_endless growing_endless
  have hitem : growth.arrayItem? boxed = none := rfl
  have hresource : growth.resourceSchema growthConfig.rules boxed = .ok none := rfl
  match fuel with
  | 0 => rfl
  | 1 => rfl
  | fuel + 2 =>
    unfold nameOf
    simp only [hitem]
    rw [boxed] at hresource ⊢
    simp only [hresource, namesOf, hgrowing, bind, Except.bind, Option.bind_none]

theorem slotsWith_boxed (fuel : Nat) :
    slotsWith growth fuel ⟨growthConfig.rules, boxed⟩ {} = .error .outOfFuel := by
  have hempty : ({} : Repository).slots.contains ⟨growthConfig.rules, boxed⟩ = false := rfl
  cases fuel with
  | zero => exact slotsAfter_of_error (ensure_zero growth hempty)
  | succ fuel =>
    have hbean : ownPlan growth fuel ⟨growthConfig.rules, boxed⟩ =
        ofBean growth fuel ⟨growthConfig.rules, boxed⟩ := rfl
    have hname : ofBean growth fuel ⟨growthConfig.rules, boxed⟩ = ⟨[], .error .outOfFuel⟩ :=
      Plan.bind_of_error _ (nameOf_boxed fuel)
    have hplan : planOf growth fuel ⟨growthConfig.rules, boxed⟩ = ⟨[], .error .outOfFuel⟩ := by
      rw [planOf, if_neg (by decide), if_neg (by decide +kernel), hbean, hname]
      rfl
    rw [slotsWith, slotsAfter_ensure_succ growth fuel hempty, hplan]
    rfl

/-- How many arguments there are in each other. -/
def depth : TypeExpr → Nat
  | .named _ [t] => depth t + 1
  | _ => 0

/-- The box comes first, then come the lists, the larger after the smaller, and last what has grown,
the smaller after the larger. -/
def place (t : TypeExpr) : Nat ×ₗ Int :=
  match t.rawName? with
  | some "Box" => toLex (0, 0)
  | some "List" => toLex (1, depth t)
  | _ => toLex (2, -depth t)

theorem depth_grown : ∀ n, depth (grown n) = n
  | 0 => rfl
  | n + 1 => congrArg (· + 1) (depth_grown n)

theorem place_growing (n : Nat) : place (growing n) = toLex (1, (n + 2 : Int)) :=
  congrArg (fun d : Nat => toLex (1, (d + 1 : Int))) (depth_grown (n + 1))

theorem place_grown (n : Nat) : place (grown n) = toLex (2, (-n : Int)) := by
  have hplace : place (grown n) = toLex (2, -(depth (grown n) : Int)) := by cases n <;> rfl
  rw [hplace, depth_grown]

/-- All that the name of the box would be put together from. -/
inductive OnTheWay : TypeExpr → Prop
  | boxed : OnTheWay boxed
  | growing (n : Nat) : OnTheWay (growing n)
  | grown (n : Nat) : OnTheWay (grown n)

/-- The way does not lead back. -/
theorem OnTheWay.step (t u : TypeExpr) (ht : OnTheWay t)
    (h : growth.NamedAfter growthConfig.rules t u) : OnTheWay u ∧ place t < place u := by
  cases ht with
  | boxed =>
    cases h with
    | argument ha =>
      obtain rfl := List.mem_singleton.mp ha
      exact ⟨.growing 0, Prod.Lex.toLex_lt_toLex.mpr (.inl Nat.zero_lt_one)⟩
    | item hi hu => cases hi
  | growing n =>
    rw [place_growing]
    cases h with
    | argument ha =>
      obtain rfl := List.mem_singleton.mp ha
      rw [place_grown]
      exact ⟨.grown (n + 1), Prod.Lex.toLex_lt_toLex.mpr (.inl Nat.one_lt_two)⟩
    | item hi hu =>
      cases hi
      cases hu
      have hlt : toLex (1, (n + 2 : Int)) < toLex (1, ((n + 1 : Nat) + 2 : Int)) :=
        Prod.Lex.toLex_lt_toLex.mpr (.inr ⟨rfl, by dsimp only; omega⟩)
      exact ⟨.growing (n + 1), hlt.trans_eq (place_growing (n + 1)).symm⟩
  | grown n =>
    cases n with
    | zero =>
      cases h with
      | argument ha => cases ha
      | item hi hu => cases hi
    | succ n =>
      cases h with
      | argument ha =>
        obtain rfl := List.mem_singleton.mp ha
        rw [place_grown, place_grown]
        exact ⟨.grown n, Prod.Lex.toLex_lt_toLex.mpr (.inr ⟨rfl, by dsimp only; omega⟩)⟩
      | item hi hu => cases hi

theorem OnTheWay.of_steps {t u : TypeExpr} (ht : OnTheWay t)
    (h : ReflTransGen (growth.NamedAfter growthConfig.rules) t u) : OnTheWay u := by
  induction h with
  | refl => exact ht
  | tail _ hstep ih => exact (ih.step _ _ hstep).1

/-- That names do not go in a circle is not enough for a call to come to an end: of the two types
that the box leads to each has finitely many superclasses, and nothing is named after itself on the
way, but no fuel is enough to put the name together. -/
theorem endless_names_without_circle :
    let rules := growthConfig.rules
    ({} : SerializationRules).add growth "ListToText" = .ok rules ∧
    {u | growth.Reaches rules boxed u}.Finite ∧
    (∀ u, growth.Reaches rules boxed u → {s | ReflTransGen growth.HasSuperclass u s}.Finite) ∧
    (∀ u, growth.Reaches rules boxed u → ∀ v, ReflTransGen (growth.NamedAfter rules) u v →
      ¬ TransGen (growth.NamedAfter rules) v v) ∧
    Reachable {} ∧
    ∀ fuel, (getOrAdd fuel boxed growthConfig).result {} = (.error .outOfFuel, {}) := by
  intro rules
  have hreaches : ∀ u, growth.Reaches rules boxed u → u ∈ [boxed, .raw "String"] := fun u =>
    Catalog.mem_of_reaches 9 (by decide +kernel) (by decide +kernel) (by decide +kernel)
  have hsuperclasses : ∀ u ∈ [boxed, .raw "String", .raw "Object"],
      {s | ReflTransGen growth.HasSuperclass u s}.Finite :=
    fun u => Catalog.finite_superclasses (by decide +kernel)
  have hway : ∀ u ∈ [boxed, .raw "String"], OnTheWay u := by
    simpa using ⟨OnTheWay.boxed, OnTheWay.grown 0⟩
  refine ⟨rfl, (List.finite_toSet _).subset hreaches, fun u hu => hsuperclasses u ?_,
    fun u hu v hv => ?_, .new, fun fuel =>
      getOrAdd_of_slots_error (.new fun _ => True) rfl (slotsWith_boxed fuel)⟩
  · exact List.mem_append_left [.raw "Object"] (hreaches u hu)
  · exact not_transGen_self_of_lt place OnTheWay.step ((hway u (hreaches u hu)).of_steps hv)

end Repository

end ServiceApi
