import ServiceApi.Model.File
import ServiceApi.Proofs.Model.EditedRecords

/-! # Key order and unknown keys

Each record is read by asking for its fields by name, so one edit does not change what is read of
it, and no number of edits changes what is read of a text. There is one step for each field, in the
order in which the record reads them: `rfl` finds the form that the field has, and what stands in it
is read by the lemma that follows. -/

namespace ServiceApi

open Node

/-! ## Annotations -/

theorem Issuer.respects : Respects Issuer.form Issuer.read := by
  refine .record rfl fun fs fs' h => ?_
  iterate 3 refine .step (h.withDefault rfl .leaf) fun _ => ?_
  exact .rfl

theorem IssuerAudience.respects : Respects IssuerAudience.form IssuerAudience.read := by
  refine .record rfl fun fs fs' h => ?_
  refine .step (h.withDefault rfl .leaf) fun _ => ?_
  refine .step (h.list rfl .leaf) fun _ => ?_
  exact .rfl

theorem PackageNamingAnnotation.respects :
    Respects PackageNamingAnnotation.form PackageNamingAnnotation.read := by
  refine .record rfl fun fs fs' h => ?_
  iterate 3 refine .step (h.optional rfl .leaf) fun _ => ?_
  exact .rfl

theorem readTexts_respects : Respects (.list .value) readTexts := .list .leaf

theorem CookieAuthAnnotation.respects :
    Respects CookieAuthAnnotation.form CookieAuthAnnotation.read := by
  refine .record rfl fun fs fs' h => ?_
  refine .step (h.optional rfl .leaf) fun _ => ?_
  refine .step (h.optional rfl readTexts_respects) fun _ => ?_
  exact .rfl

theorem CacheControlAnnotation.respects :
    Respects CacheControlAnnotation.form CacheControlAnnotation.read := by
  refine .record rfl fun fs fs' h => ?_
  iterate 2 refine .step (h.optional rfl .leaf) fun _ => ?_
  exact .rfl

theorem LimitRule.respects : Respects LimitRule.form LimitRule.read := by
  refine .record rfl fun fs fs' h => ?_
  iterate 5 refine .step (h.withDefault rfl .leaf) fun _ => ?_
  exact .rfl

theorem FrontendLimitsAnnotation.respects :
    Respects FrontendLimitsAnnotation.form FrontendLimitsAnnotation.read := by
  refine .record rfl fun fs fs' h => ?_
  iterate 3 refine .step (h.optional rfl .leaf) fun _ => ?_
  refine .step (h.optional rfl (.list LimitRule.respects)) fun _ => ?_
  exact .rfl

theorem LimitMetric.respects : Respects LimitMetric.form LimitMetric.read := by
  refine .record rfl fun fs fs' h => ?_
  iterate 3 refine .step (h.withDefault rfl .leaf) fun _ => ?_
  exact .rfl

theorem MetricCost.respects : Respects MetricCost.form MetricCost.read := by
  refine .record rfl fun fs fs' h => ?_
  iterate 2 refine .step (h.withDefault rfl .leaf) fun _ => ?_
  exact .rfl

theorem ApiAnnotation.respects : Respects ApiAnnotation.form ApiAnnotation.read := by
  refine .record rfl fun fs fs' h => ?_
  iterate 14 refine .step (h.optional rfl .leaf) fun _ => ?_
  iterate 2 refine .step (h.optional rfl readTexts_respects) fun _ => ?_
  refine .step (h.optional rfl (.list Issuer.respects)) fun _ => ?_
  refine .step (h.optional rfl (.list IssuerAudience.respects)) fun _ => ?_
  iterate 3 refine .step (h.optional rfl readTexts_respects) fun _ => ?_
  refine .step (h.optional rfl .leaf) fun _ => ?_
  refine .step (h.optional rfl readTexts_respects) fun _ => ?_
  refine .step (h.optional rfl PackageNamingAnnotation.respects) fun _ => ?_
  refine .step (h.optional rfl CookieAuthAnnotation.respects) fun _ => ?_
  refine .step (h.optional rfl CacheControlAnnotation.respects) fun _ => ?_
  refine .step (h.optional rfl FrontendLimitsAnnotation.respects) fun _ => ?_
  refine .step (h.optional rfl (.list LimitMetric.respects)) fun _ => ?_
  exact .rfl

theorem ClassAnnotation.respects : Respects ClassAnnotation.form ClassAnnotation.read := by
  refine .record rfl fun fs fs' h => ?_
  iterate 2 refine .step (h.optional rfl .leaf) fun _ => ?_
  iterate 2 refine .step (h.optional rfl readTexts_respects) fun _ => ?_
  refine .step (h.optional rfl (.list IssuerAudience.respects)) fun _ => ?_
  iterate 3 refine .step (h.optional rfl readTexts_respects) fun _ => ?_
  iterate 2 refine .step (h.optional rfl .leaf) fun _ => ?_
  exact .rfl

theorem MethodAnnotation.respects : Respects MethodAnnotation.form MethodAnnotation.read := by
  refine .record rfl fun fs fs' h => ?_
  iterate 5 refine .step (h.optional rfl .leaf) fun _ => ?_
  iterate 2 refine .step (h.optional rfl readTexts_respects) fun _ => ?_
  refine .step (h.optional rfl (.list IssuerAudience.respects)) fun _ => ?_
  iterate 3 refine .step (h.optional rfl readTexts_respects) fun _ => ?_
  iterate 2 refine .step (h.optional rfl .leaf) fun _ => ?_
  refine .step (h.optional rfl (.list MetricCost.respects)) fun _ => ?_
  exact .rfl

theorem PropertyAnnotation.respects : Respects PropertyAnnotation.form PropertyAnnotation.read := by
  refine .record rfl fun fs fs' h => ?_
  iterate 4 refine .step (h.optional rfl .leaf) fun _ => ?_
  exact .rfl

/-! ## Classes -/

theorem PropertyDecl.respects : Respects PropertyDecl.form PropertyDecl.read := by
  refine .record rfl fun fs fs' h => ?_
  iterate 2 refine .step (h.required rfl .leaf) fun _ => ?_
  iterate 2 refine .step (h.withDefault rfl .leaf) fun _ => ?_
  refine .step (h.optional rfl PropertyAnnotation.respects) fun _ => ?_
  exact .rfl

/-- The type is picked first; the other fields, those that were added among them, are all resolved
before the known ones are picked. -/
theorem ParameterDecl.respects : Respects ParameterDecl.form ParameterDecl.read := by
  intro n n' h
  refine h.openFields.bind fun given given' hgiven => ?_
  have htype : (given.only ["type"]).Perm (given'.only ["type"]) :=
    hgiven.only fun f hf hname => hf.1 (List.mem_of_mem_take (i := 1) hname)
  refine (Agree.pick_perm htype).bind fun fs fs' hfs => ?_
  have hdepth :
      Agree (fun d d' => d = Source.json.depth ∧ d' = Source.json.depth) nesting nesting :=
    .of_returns (fun _ => rfl) (fun _ => rfl) ⟨rfl, rfl⟩
  refine hdepth.bind fun _ _ ⟨hd, hd'⟩ => ?_
  subst hd hd'
  refine (hgiven.filter _).resolve.bind fun others others' hothers => ?_
  have hpicked : (others.only ["name", "nullable", "default_value", "description"]).Perm
      (others'.only ["name", "nullable", "default_value", "description"]) :=
    hothers.only fun f hf hname => hf (List.mem_cons_of_mem _ hname)
  refine (Agree.pick_perm hpicked).bind fun os os' hos => ?_
  have hknown : FieldsNear [("type", .value)] fs fs' := .of_lookup hfs
  have hrest : FieldsNear [("name", .value), ("nullable", .value), ("default_value", .value),
      ("description", .value)] os os' := .of_lookup hos
  refine .step (hknown.required rfl .leaf) fun _ => ?_
  refine .step (hrest.optional rfl .leaf) fun _ => ?_
  refine .step (hrest.withDefault rfl .leaf) fun _ => ?_
  iterate 2 refine .step (hrest.optional rfl .leaf) fun _ => ?_
  exact .rfl

/-- A parameter is refused with any field that cannot be resolved, known or not. -/
theorem ParameterDecl.refuses {fs : Fields} {f : String × Node} (hf : f ∈ fs) (hkey : f.1 ≠ "type")
    (h : Refuses (resolve Source.json.depth f.2)) : Refuses (read (.record fs)) := by
  refine .of_returns (.pure fs) ?_
  obtain hpick | ⟨picked, hpick⟩ := Decided.pick ["type"] fs
  · exact hpick.bind _
  · refine .of_returns hpick ?_
    refine .of_returns (fun _ => rfl : Returns nesting Source.json.depth) ?_
    have hdecided (e : String × Node) :
        Decided (do return (e.1, ← resolve Source.json.depth e.2)) :=
      (decided_resolve _ e.2).bind fun _ => .pure _
    refine Refuses.bind (.mapM hdecided (h.bind _) (List.mem_filter.mpr ⟨hf, ?_⟩)) _
    exact bne_iff_ne.mpr hkey

theorem MethodDecl.respects : Respects MethodDecl.form MethodDecl.read := by
  refine .record rfl fun fs fs' h => ?_
  refine .step (h.required rfl .leaf) fun _ => ?_
  refine .step (h.list rfl ParameterDecl.respects) fun _ => ?_
  refine .step (h.optional rfl .leaf) fun _ => ?_
  iterate 2 refine .step (h.withDefault rfl .leaf) fun _ => ?_
  refine .step (h.optional rfl MethodAnnotation.respects) fun _ => ?_
  exact .rfl

theorem ClassDecl.respects : Respects ClassDecl.form ClassDecl.read := by
  refine .record rfl fun fs fs' h => ?_
  iterate 2 refine .step (h.withDefault rfl .leaf) fun _ => ?_
  refine .step (h.list rfl .leaf) fun _ => ?_
  refine .step (h.optional rfl .leaf) fun _ => ?_
  refine .step (h.list rfl .leaf) fun _ => ?_
  refine .step (h.list rfl PropertyDecl.respects) fun _ => ?_
  refine .step (h.list rfl .leaf) fun _ => ?_
  iterate 2 refine .step (h.optional rfl .leaf) fun _ => ?_
  refine .step (h.optional rfl ApiAnnotation.respects) fun _ => ?_
  refine .step (h.optional rfl ClassAnnotation.respects) fun _ => ?_
  refine .step (h.optional rfl .leaf) fun _ => ?_
  refine .step (h.list rfl MethodDecl.respects) fun _ => ?_
  exact .rfl

/-! ## Transformers and models -/

theorem ResourceProperty.respects : Respects ResourceProperty.form ResourceProperty.read := by
  refine .record rfl fun fs fs' h => ?_
  iterate 2 refine .step (h.required rfl .leaf) fun _ => ?_
  exact .rfl

theorem ResourceSchema.respects : Respects ResourceSchema.form ResourceSchema.read := by
  refine .record rfl fun fs fs' h => ?_
  refine .step (h.optional rfl .leaf) fun _ => ?_
  refine .step (h.list rfl ResourceProperty.respects) fun _ => ?_
  exact .rfl

theorem TransformerDecl.respects : Respects TransformerDecl.form TransformerDecl.read := by
  refine .record rfl fun fs fs' h => ?_
  iterate 3 refine .step (h.required rfl .leaf) fun _ => ?_
  refine .step (h.withDefault rfl (.list .leaf)) fun _ => ?_
  refine .step (h.optional rfl ResourceSchema.respects) fun _ => ?_
  exact .rfl

namespace ServiceModel

theorem respects : Respects form read := by
  refine .record rfl fun fs fs' h => ?_
  refine .step (h.list rfl ClassDecl.respects) fun _ => ?_
  refine .step (h.list rfl TransformerDecl.respects) fun _ => ?_
  refine .step (h.list rfl .leaf) fun _ => ?_
  exact .rfl

theorem ofNode?_eq_of_edit {n n' : Node} (h : Edit IsKept form n n') : ofNode? n' = ofNode? n :=
  (respects n n' (.single h)).from?_eq.symm

/-! ## Deep values -/

/-- Lists that nest `depth` deep. -/
def nested : Nat → Json
  | 0 => .null
  | depth + 1 => .arr [nested depth]

theorem realFree_nested : ∀ depth, (nested depth).RealFree
  | 0 => Json.realFree_null
  | depth + 1 => by simpa [nested] using realFree_nested depth

theorem isInRange_nested : ∀ depth, (nested depth).node.isInRange depth = true
  | 0 => rfl
  | depth + 1 => List.all_eq_true.mpr (List.forall_mem_singleton.mpr (isInRange_nested depth))

theorem refuses_resolve_nested : ∀ {depth k : Nat}, depth < k →
    Refuses (resolve depth (nested k).node)
  | 0, k + 1, _ => fun _ => rfl
  | depth + 1, k + 1, h =>
    have hitem : Refuses ([(nested k).node].mapM (resolve depth)) := by
      rw [List.mapM_cons]
      exact (refuses_resolve_nested (Nat.lt_of_succ_lt_succ h)).bind _
    hitem.bind fun items => pure (Node.row items)

/-- A service model with one method, the fields of whose only parameter are `fs`. -/
def counting (fs : List (String × Json)) : List (String × Json) :=
  [("classes", .arr [.obj [("name", .str "Shelf"),
    ("methods", .arr [.obj [("name", .str "count"), ("params", .arr [.obj fs])]])]])]

/-- An edit of the parameter is one of the model. -/
theorem edit_counting {kept : Node → Prop} {fs fs' : List (String × Json)}
    (h : Edit kept ParameterDecl.form (Json.obj fs).node (Json.obj fs').node) :
    Edit kept form (Json.obj (counting fs)).node (Json.obj (counting fs')).node :=
  have hmethod : Edit kept MethodDecl.form _ _ :=
    .field [("name", .text "count")] [] rfl (.item [] [] h)
  have hclass : Edit kept ClassDecl.form _ _ :=
    .field [("name", .text "Shelf")] [] rfl (.item [] [] hmethod)
  .field [] [] rfl (.item [] [] hclass)

/-- The model is refused if its parameter is. -/
theorem refuses_counting {fs : List (String × Json)}
    (h : Refuses (ParameterDecl.read (Json.obj fs).node)) :
    Refuses (read (Json.obj (counting fs)).node) := by
  have hmethod : Refuses (MethodDecl.read
      (Json.obj [("name", .str "count"), ("params", .arr [.obj fs])]).node) := by
    iterate 2 refine .of_returns (fun _ => rfl) ?_
    exact .bind (.list rfl h) _
  have hclass : Refuses (ClassDecl.read (Json.obj [("name", .str "Shelf"),
      ("methods", .arr [.obj [("name", .str "count"), ("params", .arr [.obj fs])]])]).node) := by
    iterate 13 refine .of_returns (fun _ => rfl) ?_
    exact .bind (.list rfl hmethod) _
  refine .of_returns (fun _ => rfl) ?_
  exact .bind (.list rfl hclass) _

/-! ## Edited texts -/

theorem isOk_parse {text : String} {n : Node} (h : Node.ofJson? text = some n)
    (hread : (ofNode? n).isSome = true) : (parse .json text).isOk = true := by
  obtain ⟨m, hm⟩ := Option.isSome_iff_exists.mp hread
  rw [parse, ofJson?, h, Option.bind_some, hm]
  rfl

/-- Whatever is permuted among the keys of the records of a text, and whatever keys are added that
the records do not know, the text is read as before: as the same model if it was accepted, and as
none if it was not. Only what is added to a parameter has to be in range and must not nest too
deeply. -/
theorem reading_ignores_key_order_and_unknown_keys {text text' : String} {n n' : Node}
    (h : Node.ofJson? text = some n)
    (h' : Node.ofJson? text' = some n') (hedits : Relation.ReflTransGen (Edit IsKept form) n n') :
    parse .json text' = parse .json text := by
  have hmodel : ofNode? n' = ofNode? n := by
    clear h'
    induction hedits with
    | refl => rfl
    | tail _ hedit ih => exact (ofNode?_eq_of_edit hedit).trans ih
  unfold parse
  dsimp only
  rw [ofJson?, ofJson?, h, h', Option.bind_some, Option.bind_some, hmodel]

/-- The type and the name of a parameter change places, it is given a value that nests as deep as it
can keep, and the model is given one that nests deeper. -/
theorem reading_ignores_key_order_and_unknown_keys_limit :
    let text := (Json.obj (counting [("type", .str "int"), ("name", .str "limit")])).compact
    let text' := (Json.obj (("note", nested 130) ::
      counting [("x", nested 120), ("name", .str "limit"), ("type", .str "int")])).compact
    (parse .json text).isOk = true ∧ parse .json text' = parse .json text := by
  intro text text'
  have hnode : Node.ofJson? text = some _ := Json.ofJson?_compact (by simp [counting])
  have hnode' : Node.ofJson? text' = some _ :=
    Json.ofJson?_compact (by simp [counting, realFree_nested])
  have hread :
      (ofNode? (Json.obj (counting [("type", .str "int"), ("name", .str "limit")])).node).isSome =
        true := by
    decide +kernel
  have hswap :
      Edit IsKept ParameterDecl.form (Json.obj [("type", .str "int"), ("name", .str "limit")]).node
      (Json.obj [("name", .str "limit"), ("type", .str "int")]).node := .permute (.swap _ _ [])
  have hkept : Edit IsKept ParameterDecl.form
      (Json.obj [("name", .str "limit"), ("type", .str "int")]).node
      (Json.obj [("x", nested 120), ("name", .str "limit"), ("type", .str "int")]).node :=
    .add (by decide) fun _ => isInRange_nested 120
  have hnote : Edit IsKept form
      (Json.obj (counting [("x", nested 120), ("name", .str "limit"), ("type", .str "int")])).node
      (Json.obj (("note", nested 130) ::
        counting [("x", nested 120), ("name", .str "limit"), ("type", .str "int")])).node :=
    .add (by decide) fun h => by cases h
  have hedits : Relation.ReflTransGen (Edit IsKept form) _ _ :=
    ((Relation.ReflTransGen.single (edit_counting hswap)).tail (edit_counting hkept)).tail hnote
  exact ⟨isOk_parse hnode hread, reading_ignores_key_order_and_unknown_keys hnode hnode' hedits⟩

/-- A value that nests too deeply is refused under an unknown key of a parameter. -/
theorem deep_values_are_not_ignored :
    ∃ n n', Node.ofJson? (Json.obj (counting [("type", .str "int")])).compact = some n ∧
      Node.ofJson? (Json.obj (counting [("x", nested 130), ("type", .str "int")])).compact =
        some n' ∧
      Edit (fun v => ∃ depth, v.isInRange depth = true) form n n' ∧
      (parse .json (Json.obj (counting [("type", .str "int")])).compact).isOk = true ∧
      parse .json (Json.obj (counting [("x", nested 130), ("type", .str "int")])).compact =
        .error (.invalid .json) := by
  have hshallow : Node.ofJson? (Json.obj (counting [("type", .str "int")])).compact = some _ :=
    Json.ofJson?_compact (by simp [counting])
  have hdeep :
      Node.ofJson? (Json.obj (counting [("x", nested 130), ("type", .str "int")])).compact =
        some _ :=
    Json.ofJson?_compact (by simp [counting, realFree_nested])
  have hedit : Edit (fun v => ∃ depth, v.isInRange depth = true) ParameterDecl.form
      (Json.obj [("type", .str "int")]).node
      (Json.obj [("x", nested 130), ("type", .str "int")]).node :=
    .add (by decide) fun _ => ⟨130, isInRange_nested 130⟩
  have hread :
      (ofNode? (Json.obj (counting [("type", .str "int")])).node).isSome = true := by decide +kernel
  have hrefused :
      Refuses (ParameterDecl.read (Json.obj [("x", nested 130), ("type", .str "int")]).node) :=
    ParameterDecl.refuses List.mem_cons_self (by decide) (refuses_resolve_nested (by decide))
  refine ⟨_, _, hshallow, hdeep, edit_counting hedit, ?_, ?_⟩
  · exact isOk_parse hshallow hread
  · have hnone :
        ofNode? (Json.obj (counting [("x", nested 130), ("type", .str "int")])).node = none := by
      rw [ofNode?, readJson?, Read.from?, refuses_counting hrefused 0]
      rfl
    rw [parse, ofJson?, hdeep, Option.bind_some, hnone]

end ServiceModel

end ServiceApi
