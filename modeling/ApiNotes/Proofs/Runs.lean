import ApiNotes.Command.Run
import ApiNotes.Proofs.Collections
import ApiNotes.Proofs.Survey

/-! # Runs of a command

A run without an output directory prints the documents of all versions, in the order in which the
versions were first seen. Asking for one version prints its document and nothing else, or fails. A
run that fails before it writes leaves the standard output empty and the files as they are.
-/

namespace ApiNotes

/-- The same command line but for the version, which it asks for. -/
structure CommandLine.Narrows (line' line : CommandLine) (version : Text) : Prop where
  version : line'.value? .apiVersion = some version
  others : ∀ setting, setting ≠ .apiVersion → line'.value? setting = line.value? setting
  flags : line'.flags = line.flags
  patterns : line'.patterns = line.patterns

namespace Outcome

/-- The run has written a text to the standard output and no file. -/
structure Prints (outcome : Outcome) (text : Text) (tree : FileTree) : Prop where
  code : outcome.code = 0
  stdout : outcome.stdout = text
  tree_eq : outcome.tree = tree

/-- The run has reported a failure, and written neither to the standard output nor to a file. -/
structure Fails (outcome : Outcome) (failure : Failure) (tree : FileTree) : Prop where
  code : outcome.code = 1
  stdout : outcome.stdout = []
  stderr : ∃ log, outcome.stderr = log ++ failure.report
  tree_eq : outcome.tree = tree

end Outcome

namespace Run

/-- The sources are read and surveyed, and the format is known. -/
structure Surveyed (line : CommandLine) (tree : FileTree) (stdin : ByteArray) (corpus : Corpus)
    (editions : Editions) (format : Format) : Prop where
  read : (sources line tree stdin).2 = .ok corpus
  survey : (corpus.survey (policy line)).outcome = .ok editions
  format : Format.ofName? line.format = some format

/-- Why a run fails before it writes: sources cannot be read, a block has a fault, no format has the
name, or no resource has the version. -/
inductive Refused (line : CommandLine) (tree : FileTree) (stdin : ByteArray) : Failure → Prop where
  | unread {failure : Failure} : (sources line tree stdin).2 = .error failure →
      Refused line tree stdin failure
  | fault {corpus : Corpus} {fault : Fault} : (sources line tree stdin).2 = .ok corpus →
      (corpus.survey (policy line)).outcome = .error fault →
      Refused line tree stdin (.badBlock fault)
  | format {corpus : Corpus} {editions : Editions} : (sources line tree stdin).2 = .ok corpus →
      (corpus.survey (policy line)).outcome = .ok editions → Format.ofName? line.format = none →
      Refused line tree stdin (.unknownFormat line.format)
  | version {corpus : Corpus} {editions : Editions} {format : Format} {wanted : Text} :
      Surveyed line tree stdin corpus editions format → line.value? .apiVersion = some wanted →
      some wanted ∉ editions.versions → Refused line tree stdin (.noVersion wanted)

variable {line line' : CommandLine} {tree : FileTree} {stdin : ByteArray} {corpus : Corpus}
  {editions : Editions} {format : Format} {failure : Failure} {ds : List Document} {wanted : Text}

section Stages

theorem run_of_sources_error (h : (sources line tree stdin).2 = .error failure) :
    (run line tree stdin).Fails failure tree := by
  obtain ⟨log, found, hs⟩ : ∃ log found, sources line tree stdin = (log, found) := ⟨_, _, rfl⟩
  rw [hs] at h
  obtain rfl : found = .error failure := h
  simp only [run, hs]
  exact ⟨rfl, rfl, ⟨log, rfl⟩, rfl⟩

theorem run_of_prepare_error (h : (sources line tree stdin).2 = .ok corpus)
    (hp : (prepare line corpus).2 = .error failure) : (run line tree stdin).Fails failure tree := by
  obtain ⟨log, found, hs⟩ : ∃ log found, sources line tree stdin = (log, found) := ⟨_, _, rfl⟩
  rw [hs] at h
  obtain rfl : found = .ok corpus := h
  simp only [run, hs, hp]
  exact ⟨rfl, rfl, ⟨_, rfl⟩, rfl⟩

theorem run_of_prepare_ok (h : (sources line tree stdin).2 = .ok corpus)
    (hp : (prepare line corpus).2 = .ok (format, ds)) (ho : line.value? .output = none) :
    (run line tree stdin).Prints (ds.flatMap format.render) tree := by
  obtain ⟨log, found, hs⟩ : ∃ log found, sources line tree stdin = (log, found) := ⟨_, _, rfl⟩
  rw [hs] at h
  obtain rfl : found = .ok corpus := h
  simp only [run, hs, hp, ho]
  exact ⟨rfl, rfl, rfl⟩

theorem prepare_of_fault {fault : Fault}
    (h : (corpus.survey (policy line)).outcome = .error fault) :
    (prepare line corpus).2 = .error (.badBlock fault) := by
  simp only [prepare, h]
  rfl

theorem prepare_of_survey (h : (corpus.survey (policy line)).outcome = .ok editions) :
    (prepare line corpus).2 =
      match Format.ofName? line.format with
      | some format => (documents line editions).map (Prod.mk format)
      | none => .error (.unknownFormat line.format) := by
  simp only [prepare, h]
  cases Format.ofName? line.format with
  | none => rfl
  | some format =>
    change (documents line editions >>= fun ds => pure (format, ds)) = _
    cases documents line editions <;> rfl

end Stages

section Versions

theorem documents_of_all (h : line.value? .apiVersion = none) (editions : Editions) :
    documents line editions = .ok (editions.entries.map (document line)) := by
  simp only [documents, h]

theorem filter_map_document (wanted : Text) (es : List Edition) :
    (es.map (document line)).filter (fun d => d.version = some wanted) =
      (es.filter fun e => e.version = some wanted).map (document line) :=
  List.filter_map

theorem filter_version_of_not_mem {es : List Edition}
    (h : some wanted ∉ es.map Edition.version) :
    es.filter (fun e => e.version = some wanted) = [] := by
  rw [List.filter_eq_nil_iff]
  intro e he heq
  exact h (List.mem_map.2 ⟨e, he, of_decide_eq_true heq⟩)

/-- The editions of other versions are left out, and there is at most one of the version. -/
theorem documents_of_version (h : line.value? .apiVersion = some wanted)
    (hv : some wanted ∈ editions.versions) :
    ∃ before edition after, editions.entries = before ++ edition :: after ∧
      edition.version = some wanted ∧ documents line editions = .ok [document line edition] := by
  obtain ⟨edition, hm, hversion⟩ := List.mem_map.1 hv
  obtain ⟨before, after, he⟩ := List.append_of_mem hm
  refine ⟨before, edition, after, he, hversion, ?_⟩
  have hdistinct := editions.distinct
  rw [he, List.map_append, List.map_cons, hversion, List.nodup_append, List.nodup_cons]
    at hdistinct
  obtain ⟨-, ⟨hafter, -⟩, hbefore⟩ := hdistinct
  have hone : editions.entries.filter (fun e => e.version = some wanted) = [edition] := by
    rw [he, List.filter_append, List.filter_cons, if_pos (decide_eq_true hversion),
      filter_version_of_not_mem hafter,
      filter_version_of_not_mem fun hm => hbefore _ hm _ List.mem_cons_self rfl]
    rfl
  simp only [documents, h, filter_map_document, hone, List.map_cons, List.map_nil]

theorem documents_of_missing (h : line.value? .apiVersion = some wanted)
    (hv : some wanted ∉ editions.versions) :
    documents line editions = .error (.noVersion wanted) := by
  simp only [documents, h, filter_map_document, filter_version_of_not_mem hv, List.map_nil]

end Versions

theorem run_of_refused (h : Refused line tree stdin failure) :
    (run line tree stdin).Fails failure tree := by
  cases h with
  | unread hread => exact run_of_sources_error hread
  | fault hread hfault => exact run_of_prepare_error hread (prepare_of_fault hfault)
  | format hread hsurvey hformat =>
    refine run_of_prepare_error hread ?_
    rw [prepare_of_survey hsurvey, hformat]
  | version hsurveyed hwanted hmissing =>
    refine run_of_prepare_error hsurveyed.read ?_
    rw [prepare_of_survey hsurveyed.survey, hsurveyed.format]
    exact congrArg (Except.map _) (documents_of_missing hwanted hmissing)

theorem run_of_surveyed (h : Surveyed line tree stdin corpus editions format)
    (hd : documents line editions = .ok ds) (ho : line.value? .output = none) :
    (run line tree stdin).Prints (ds.flatMap format.render) tree := by
  refine run_of_prepare_ok h.read ?_ ho
  rw [prepare_of_survey h.survey, h.format, hd]
  rfl

theorem refused_or_surveyed (line : CommandLine) (tree : FileTree) (stdin : ByteArray) :
    (∃ failure, Refused line tree stdin failure) ∨
      ∃ corpus editions format ds, Surveyed line tree stdin corpus editions format ∧
        documents line editions = .ok ds := by
  cases hread : (sources line tree stdin).2 with
  | error failure => exact .inl ⟨failure, .unread hread⟩
  | ok corpus =>
    cases hsurvey : (corpus.survey (policy line)).outcome with
    | error fault => exact .inl ⟨_, .fault hread hsurvey⟩
    | ok editions =>
      cases hformat : Format.ofName? line.format with
      | none => exact .inl ⟨_, .format hread hsurvey hformat⟩
      | some format =>
        have h : Surveyed line tree stdin corpus editions format := ⟨hread, hsurvey, hformat⟩
        cases hwanted : line.value? .apiVersion with
        | none => exact .inr ⟨_, _, _, _, h, documents_of_all hwanted editions⟩
        | some wanted =>
          by_cases hv : some wanted ∈ editions.versions
          · obtain ⟨_, _, _, -, -, hd⟩ := documents_of_version hwanted hv
            exact .inr ⟨_, _, _, _, h, hd⟩
          · exact .inl ⟨_, .version h hwanted hv⟩

section Narrowing

variable {version : Text}

theorem surveyed_of_narrows (hn : line'.Narrows line version)
    (h : Surveyed line tree stdin corpus editions format) :
    Surveyed line' tree stdin corpus editions format := by
  have hsources : sources line' tree stdin = sources line tree stdin := by
    simp only [sources, hn.patterns]
  have hpolicy : policy line' = policy line := by
    simp only [policy, hn.flags]
  have hformat : line'.format = line.format := by
    simp only [CommandLine.format, hn.others .format (by decide)]
  constructor
  · rw [hsources]
    exact h.read
  · rw [hpolicy]
    exact h.survey
  · rw [hformat]
    exact h.format

theorem document_of_narrows (hn : line'.Narrows line version) (edition : Edition) :
    document line' edition = document line edition := by
  simp only [document, CommandLine.title, hn.others .title (by decide),
    hn.others .baseUri (by decide)]

end Narrowing

theorem version_of_mem_resources {rs : List Resource} {edition : Edition} {r : Resource}
    (he : edition ∈ (Editions.ofList rs).entries) (hr : r ∈ edition.resources.entries) :
    r.version = edition.version := by
  rw [Editions.resources_of_mem_ofList he] at hr
  simpa using (List.mem_filter.1 (Resources.mem_of_mem_ofList hr)).2

/-- A run prints the documents of all versions in the order of their first sighting, and asked for
one version it prints the one document of this version, or fails if there is none. A run that is
refused has no effect, and without an output directory no other run fails. -/
theorem run_version_filter (line : CommandLine) (tree : FileTree) (stdin : ByteArray) :
    (∀ corpus editions format, Surveyed line tree stdin corpus editions format →
      line.value? .output = none → line.value? .apiVersion = none →
      let rs := corpus.blocks.filterMap (Corpus.resource? corpus.definitions (policy line))
      let written := fun edition => format.render (document line edition)
      editions.versions = (rs.map Resource.version).eraseDups ∧
      (run line tree stdin).Prints (editions.entries.flatMap written) tree ∧
      ∀ version line', line'.Narrows line version →
        (some version ∈ editions.versions → ∃ before edition after,
          editions.entries = before ++ edition :: after ∧ edition.version = some version ∧
          (∀ r ∈ edition.resources.entries, r.version = some version) ∧
          (run line' tree stdin).Prints (written edition) tree) ∧
        (some version ∉ editions.versions →
          (run line' tree stdin).Fails (.noVersion version) tree)) ∧
    (∀ failure, Refused line tree stdin failure → (run line tree stdin).Fails failure tree) ∧
    (line.value? .output = none → (run line tree stdin).code ≠ 0 →
      ∃ failure, Refused line tree stdin failure) := by
  refine ⟨fun corpus editions format h ho hall => ?_, fun failure => run_of_refused,
    fun ho hcode => ?_⟩
  · intro rs written
    have heditions : editions = .ofList rs := by
      have hsurvey := h.survey
      have hreads := Corpus.reads_of_surveyBlocks_eq_ok hsurvey
      rw [Corpus.survey, Corpus.surveyBlocks_of_reads hreads] at hsurvey
      exact (Except.ok.inj hsurvey).symm
    refine ⟨heditions ▸ Editions.versions_ofList rs, ?_, fun version line' hn =>
      ⟨fun hv => ?_, fun hv => ?_⟩⟩
    · have hprints := run_of_surveyed h (documents_of_all hall editions) ho
      rwa [List.flatMap_map] at hprints
    · obtain ⟨before, edition, after, he, hversion, hd⟩ := documents_of_version hn.version hv
      have hm : edition ∈ editions.entries := he ▸ List.mem_append_cons_self
      refine ⟨before, edition, after, he, hversion, fun r hr => ?_, ?_⟩
      · exact (version_of_mem_resources (heditions ▸ hm) hr).trans hversion
      · have hprints := run_of_surveyed (surveyed_of_narrows hn h) hd
          ((hn.others .output (by decide)).trans ho)
        rwa [List.flatMap_singleton, document_of_narrows hn] at hprints
    · exact run_of_refused (.version (surveyed_of_narrows hn h) hn.version hv)
  · rcases refused_or_surveyed line tree stdin with hrefused | ⟨_, _, _, _, h, hd⟩
    · exact hrefused
    · exact absurd (run_of_surveyed h hd ho).code hcode

theorem sources_of_text (h : line.patterns = []) (tree : FileTree) (text : Text) :
    (sources line tree text.toBytes).2 = .ok [{ id := inputId, text }] := by
  have hstring : String.fromUTF8? text.toBytes = some (String.ofList text) :=
    dif_pos (String.ofList text).isValidUTF8
  have htext : Text.ofBytes? text.toBytes = some text := by
    rw [Text.ofBytes?, hstring, Option.map_some, String.toList_ofList]
  simp only [sources, h, List.isEmpty_nil, if_true, htext]

theorem run_version_filter_of_two_editions :
    let text : Text := ("'''@api \x7bget\x7d /a A''' " ++
      "'''@api \x7bget\x7d /a A\n@apiVersion 1'''").toList
    let asked := fun version : String =>
      ({ settings := [(.apiVersion, version.toList)] } : CommandLine)
    ∃ editions, Surveyed {} .empty text.toBytes [{ id := inputId, text }] editions .markdown ∧
      editions.versions = [none, some "1".toList] ∧
      (∃ before edition after, editions.entries = before ++ edition :: after ∧
        edition.version = some "1".toList ∧
        (run (asked "1") .empty text.toBytes).Prints
          (Format.markdown.render (document {} edition)) .empty) ∧
      (run (asked "2") .empty text.toBytes).Fails (.noVersion "2".toList) .empty := by
  intro text asked
  have hsurvey : (Corpus.survey .strict [{ id := inputId, text }]).outcome.toOption.map
      Editions.versions = some [none, some "1".toList] := by
    decide +kernel
  have hnarrows : ∀ version, (asked version).Narrows {} version.toList := by
    intro version
    refine ⟨rfl, fun setting hs => ?_, rfl, rfl⟩
    cases setting with
    | apiVersion => exact absurd rfl hs
    | _ => rfl
  cases ho : (Corpus.survey .strict [{ id := inputId, text }]).outcome with
  | error fault => simp [ho, Except.toOption] at hsurvey
  | ok editions =>
    rw [ho] at hsurvey
    have hversions : editions.versions = [none, some "1".toList] := Option.some.inj hsurvey
    have h : Surveyed {} .empty text.toBytes [{ id := inputId, text }] editions .markdown :=
      ⟨sources_of_text rfl .empty text, ho, by decide +kernel⟩
    obtain ⟨-, -, hversion⟩ := (run_version_filter {} .empty text.toBytes).1 _ _ _ h rfl rfl
    refine ⟨editions, h, hversions, ?_, (hversion _ _ (hnarrows "2")).2 ?_⟩
    · obtain ⟨before, edition, after, he, hone, -, hprints⟩ :=
        (hversion _ _ (hnarrows "1")).1 (by simp [hversions])
      exact ⟨before, edition, after, he, hone, hprints⟩
    · rw [hversions]
      decide

end Run

end ApiNotes
