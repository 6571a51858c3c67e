import ServiceApi.Proofs.Generation.Documents
import ServiceApi.Proofs.Validated

/-! # The file names of a run

A document is named for its API, its version and its format. A version may be anything, but the name
of an API that passes validation has no `-`, and the formats are told apart by the last letter of
their extension. So the name of a file is cut in one way only, and no two documents of a run share
one. -/

namespace ServiceApi

variable {key key' : ApiKey} {format format' : DocumentFormat}

/-! ## Cutting a file name -/

namespace ApiKey

/-- What a document of `format` is called. -/
def fileName (key : ApiKey) (format : DocumentFormat) : String :=
  key.fileStem ++ "." ++ format.extension

theorem toList_fileName (key : ApiKey) (format : DocumentFormat) : (key.fileName format).toList =
    key.name.toList ++ '-' :: (key.version.toList ++ '.' :: format.extension.toList) := by
  simp [fileName, fileStem]

/-- The last letter of a file name gives the format. -/
theorem format_eq_of_fileName_eq (h : key.fileName format = key'.fileName format') :
    format = format' := by
  have hlast (k : ApiKey) (f : DocumentFormat) :
      (k.fileName f).toList.getLast? = ('.' :: f.extension.toList).getLast? := by
    rw [toList_fileName, ← List.cons_append, ← List.append_assoc, List.getLast?_append_cons]
  have hletter := hlast key format
  rw [h, hlast] at hletter
  revert hletter
  cases format <;> cases format' <;> decide

/-- Where names have no `-`, a file name gives the name, the version and the format. -/
theorem eq_of_fileName_eq (hkey : '-' ∉ key.name.toList) (hkey' : '-' ∉ key'.name.toList)
    (h : key.fileName format = key'.fileName format') :
    key.withoutRoot = key'.withoutRoot ∧ format = format' := by
  obtain rfl := format_eq_of_fileName_eq h
  have hlist := congrArg String.toList h
  rw [toList_fileName, toList_fileName] at hlist
  obtain ⟨hname, hrest⟩ := eq_of_append_cons_eq hkey hkey' hlist
  have hversion := List.append_cancel_right hrest
  refine ⟨?_, rfl⟩
  rw [withoutRoot, withoutRoot, String.toList_inj.mp hname, String.toList_inj.mp hversion]

end ApiKey

/-! ## Names that are checked -/

/-- A document that is called after its API, the name of which has no `-`. -/
structure GeneratedDocument.Filed (d : GeneratedDocument) : Prop where
  withoutRoot : d.key.withoutRoot = d.key
  name : '-' ∉ d.key.name.toList
  fileName : ∃ format, d.fileName = d.key.fileName format

theorem GeneratedDocument.Filed.key_eq {d d' : GeneratedDocument} (hd : d.Filed) (hd' : d'.Filed)
    (h : d.fileName = d'.fileName) : d.key = d'.key := by
  obtain ⟨format, hname⟩ := hd.fileName
  obtain ⟨format', hname'⟩ := hd'.fileName
  rw [hname, hname'] at h
  rw [← hd.withoutRoot, ← hd'.withoutRoot]
  exact (ApiKey.eq_of_fileName_eq hd.name hd'.name h).1

/-- Documents of different APIs have different names. -/
theorem GeneratedDocument.disjoint_fileNames {docs docs' : List GeneratedDocument}
    (hdocs : ∀ d ∈ docs, d.Filed) (hdocs' : ∀ d ∈ docs', d.Filed)
    (hne : ∀ d ∈ docs, ∀ d' ∈ docs', d.key ≠ d'.key) :
    List.Disjoint (docs.map (·.fileName)) (docs'.map (·.fileName)) := by
  intro name hname hname'
  obtain ⟨d, hd, rfl⟩ := List.mem_map.mp hname
  obtain ⟨d', hd', heq⟩ := List.mem_map.mp hname'
  exact hne d hd d' hd' ((hdocs d hd).key_eq (hdocs' d' hd') heq.symm)

/-- The group is of the API at `key`, and where it is validated, the name of the API has no `-`. -/
structure ApiGroup.NamedAt (key : ApiKey) (g : ApiGroup) : Prop where
  first : ∃ a rest, g.configs = a :: rest ∧ a.key.withoutRoot = key
  name : g.stage = .validated → '-' ∉ key.name.toList

theorem ApiGroup.NamedAt.withoutRoot {g : ApiGroup} (h : g.NamedAt key) :
    key.withoutRoot = key := by
  obtain ⟨a, -, -, rfl⟩ := h.first
  rfl

namespace GenerationRun

open ApiGroup

variable {run : GenerationRun} {calls : List Call} {c : Call} {g g' : ApiGroup} {fuel : Nat}
  {formats : List DocumentFormat} {s : RenderState} {d : GeneratedDocument}

/-- Only a move by hand makes a group validated without a look at the name. -/
theorem Changes.namedAt (h : Changes key c g g') (hg : g.NamedAt key) :
    g'.NamedAt key ∨ c = .transition key .validated ∧ g.stage.Edge .validated := by
  induction h with
  | kept => exact .inl hg
  | validated _ hvalid =>
    obtain ⟨a, rest, hconfigs, rfl⟩ := hg.first
    rw [hconfigs] at hvalid
    exact .inl ⟨⟨a, rest, hconfigs, rfl⟩, fun _ => Validate.not_mem_name_of_ok hvalid⟩
  | invalid => exact .inl ⟨hg.first, nofun⟩
  | emitted => exact .inl ⟨hg.first, nofun⟩
  | unwritten => exact .inl ⟨hg.first, nofun⟩
  | generated _ _ ih ih' =>
    obtain hg' | ⟨hcall, -⟩ := ih hg
    · obtain hg'' | ⟨hcall, -⟩ := ih' hg'
      · exact .inl hg''
      · cases hcall
    · cases hcall
  | @moved target _ hedge =>
    by_cases htarget : target = .validated
    · subst htarget
      exact .inr ⟨rfl, hedge⟩
    · exact .inl ⟨hg.first, fun hstage => absurd hstage htarget⟩

/-- All groups are named at their keys. -/
def Named (run : GenerationRun) : Prop := ∀ key g, run.groups.get? key = some g → g.NamedAt key

theorem named_ofConfigs (configs : List ApiConfig) : (ofConfigs configs).Named := by
  intro key g hg
  have hmem : key ∈ (ofConfigs configs).groups.keys := OrderedMap.mem_keys_iff.mpr ⟨g, hg⟩
  rw [of_get?_ofConfigs hg]
  obtain ⟨a, rest, hconfigs⟩ := List.exists_cons_of_ne_nil (mem_keys_ofConfigs.mp hmem)
  have hfirst : a ∈ configsAt key configs := hconfigs ▸ List.mem_cons_self
  exact ⟨⟨a, rest, hconfigs, (mem_configsAt.mp hfirst).2⟩, nofun⟩

theorem Named.call (h : run.Named) (hmoves : ∀ key, c = .transition key .validated →
    ∀ moved, run.transition key .validated ≠ .ok moved) : (run.call c).1.Named := by
  intro key g' hg'
  obtain ⟨g, hg, hchanges⟩ := get?_of_call hg'
  obtain hnamed | ⟨hcall, hedge⟩ := hchanges.namedAt (h key g hg)
  · exact hnamed
  · exact absurd (transition_eq_ok_iff.mpr ⟨g, hg, hedge, rfl⟩) (hmoves key hcall _)

theorem Named.validate (h : run.Named) (fuel : Nat) : (run.validate fuel).Named :=
  h.call (c := .validate fuel) (fun _ hcall => nomatch hcall)

/-! ## Names of documents -/

theorem Named.filed_of_mem (h : run.Named)
    (hd : d ∈ (run.emitWith (formats.map (·.writer fuel)) s).2.1) : d.Filed := by
  obtain ⟨g, hg, hstage, -, t, u, hrendered⟩ := rendered_of_mem hd
  have hown : d ∈ (run.emitWith (formats.map (·.writer fuel)) s).2.1.filter (·.key = d.key) :=
    List.mem_filter.mpr ⟨hd, decide_eq_true rfl⟩
  have hname := List.mem_map_of_mem (f := (·.fileName)) hown
  rw [hrendered.map_fileName, List.map_map] at hname
  obtain ⟨format, -, heq⟩ := List.mem_map.mp hname
  exact ⟨(h _ g hg).withoutRoot, (h _ g hg).name hstage, format, heq.symm⟩

theorem Named.nodup_emitWith (h : run.Named) (hformats : formats.Nodup) (fuel : Nat)
    (s : RenderState) :
    ((run.emitWith (formats.map (·.writer fuel)) s).2.1.map (·.fileName)).Nodup := by
  have hfiled (key : ApiKey) : ∀ d ∈ (run.emitWith (formats.map (·.writer fuel)) s).2.1.filter
      (·.key = key), d.Filed := fun d hd => h.filed_of_mem (List.mem_of_mem_filter hd)
  rw [emitWith_eq_flatMap, List.map_flatMap, List.nodup_flatMap]
  refine ⟨fun key _ => ?_, run.groups.nodup.imp fun {key key'} hne =>
    GeneratedDocument.disjoint_fileNames (hfiled key) (hfiled key') fun d hd d' hd' heq => hne ?_⟩
  · -- The documents of one API differ in their formats.
    cases hown : (run.emitWith (formats.map (·.writer fuel)) s).2.1.filter (·.key = key) with
    | nil => exact .nil
    | cons d rest =>
      have hmem := hown.symm ▸ List.mem_cons_self (a := d) (l := rest)
      obtain ⟨hd, hkey⟩ := List.mem_filter.mp hmem
      obtain rfl := of_decide_eq_true hkey
      obtain ⟨g, -, -, -, t, u, hrendered⟩ := rendered_of_mem hd
      rw [← hown, hrendered.map_fileName, List.map_map]
      exact hformats.map fun format format' heq => ApiKey.format_eq_of_fileName_eq heq
  · rw [← of_decide_eq_true (List.mem_filter.mp hd).2,
      ← of_decide_eq_true (List.mem_filter.mp hd').2]
    exact heq

/-- The writers that a call is given. -/
def Call.writers : Call → List DocumentWriter
  | .emit writers _ => writers
  | .generate _ writers _ => writers
  | .validate _ | .transition _ _ => []

/-- The call writes some of the formats, each once. -/
def Call.WritesFormats (c : Call) : Prop :=
  ∃ fuel, ∃ formats : List DocumentFormat, formats.Nodup ∧ c.writers = formats.map (·.writer fuel)

theorem Named.documents_of_call (h : run.Named) (hc : c.WritesFormats) :
    (∀ d ∈ (run.call c).2, d.Filed) ∧ ((run.call c).2.map (·.fileName)).Nodup := by
  obtain ⟨fuel, formats, hformats, hc⟩ := hc
  cases c with
  | validate _ => exact ⟨nofun, .nil⟩
  | emit writers s =>
    obtain rfl : writers = _ := hc
    exact ⟨fun d hd => h.filed_of_mem hd, h.nodup_emitWith hformats fuel s⟩
  | generate fuel' writers s =>
    obtain rfl : writers = _ := hc
    have hvalidate := h.validate fuel'
    exact ⟨fun d hd => hvalidate.filed_of_mem hd, hvalidate.nodup_emitWith hformats fuel s⟩
  | transition key target =>
    rw [documents_of_transition]
    exact ⟨nofun, .nil⟩

/-- In the end each call has returned documents that are filed, under names that differ. -/
theorem Named.documents_of_calls (calls : List Call) : ∀ {run : GenerationRun}, run.Named →
    (∀ c ∈ calls, c.WritesFormats) → (∀ key, ¬ MovesByHand run calls key .validated) →
    ∀ docs ∈ run.returned calls, (∀ d ∈ docs, d.Filed) ∧ (docs.map (·.fileName)).Nodup := by
  induction calls with
  | nil => exact fun _ _ _ docs hdocs => (List.not_mem_nil hdocs).elim
  | cons c calls ih =>
    intro run h hwriters hmoves
    obtain ⟨hc, hwriters⟩ := List.forall_mem_cons.mp hwriters
    refine List.forall_mem_cons.mpr ⟨h.documents_of_call hc, ih (h.call ?_) hwriters ?_⟩
    · exact fun key hcall moved hmoved =>
        hmoves key (movesByHand_cons.mpr (.inl ⟨hcall, moved, hmoved⟩))
    · exact fun key hlater => hmoves key (movesByHand_cons.mpr (.inr hlater))

/-- Where no group is moved to validated by hand and each call writes formats that differ, no two of
the documents that a batch ever returns share a file name. -/
theorem output_files_differ (configs : List ApiConfig) (calls : List Call)
    (hwriters : ∀ c ∈ calls, c.WritesFormats)
    (hmoves : ∀ key, ¬ MovesByHand (ofConfigs configs) calls key .validated) :
    (((ofConfigs configs).returned calls).flatten.map (·.fileName)).Nodup := by
  have hreturned := (named_ofConfigs configs).documents_of_calls calls hwriters hmoves
  rw [List.map_flatten, List.nodup_flatten]
  refine ⟨List.forall_mem_map.mpr fun docs hdocs => (hreturned docs hdocs).2,
    List.pairwise_map.mpr ?_⟩
  exact (pairwise_returned calls _).imp_of_mem fun hdocs hdocs' hne =>
    GeneratedDocument.disjoint_fileNames (hreturned _ hdocs).1 (hreturned _ hdocs').1 hne

theorem output_files_differ_shelves :
    let batch := ofConfigs [bareApi "shelves" "v1", bareApi "shelves" "v1-beta.api"]
    let calls := [.validate 9, .emit (DocumentFormat.all.map (·.writer 9)) {}]
    let names := (batch.returned calls).flatten.map (·.fileName)
    names = ["shelves-v1.api", "shelves-v1.discovery", "shelves-v1.openapi.json",
      "shelves-v1-beta.api.api", "shelves-v1-beta.api.discovery",
        "shelves-v1-beta.api.openapi.json"] ∧
    names.Nodup := by
  intro batch calls names
  refine ⟨by decide +kernel, output_files_differ _ calls ?_ ?_⟩
  · exact List.forall_mem_cons.mpr ⟨⟨9, [], .nil, rfl⟩,
      List.forall_mem_singleton.mpr ⟨9, DocumentFormat.all, by decide, rfl⟩⟩
  · simp [calls, movesByHand_cons, not_movesByHand_nil]

/-- Names that nobody has checked may share a file. -/
example :
    let left : ApiKey := { name := "book-shelves", version := "v1" }
    let right : ApiKey := { name := "book", version := "shelves-v1" }
    let run := (ofConfigs [bareApi "book-shelves" "v1", bareApi "book" "shelves-v1"]).after
      [.transition left .validated, .transition right .validated]
    (run.emitWith [DocumentFormat.legacy.writer 9] {}).2.1.map (·.fileName) =
      ["book-shelves-v1.api", "book-shelves-v1.api"] := by
  decide +kernel

end GenerationRun

end ServiceApi
