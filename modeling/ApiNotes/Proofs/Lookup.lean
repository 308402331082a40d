import ApiNotes.Proofs.Collections
import ApiNotes.Proofs.LowerCase
import ApiNotes.Proofs.Survey
import ApiNotes.Proofs.TagFamilies

/-! # Looking resources up

Every resource that a survey files is found under its path and its method, in whatever case the
method is given. A key does not tell a hyphen of a path or a method from the one between them, so
two endpoints have one key exactly if they cut the same text at different hyphens.
-/

namespace ApiNotes

namespace Resource

variable {path path' method method' : Text}

/-- The first endpoint has the end of its path, after a hyphen, where the second has the start of
its method. -/
def Shifted (path method path' method' : Text) : Prop :=
  ∃ part, path = path' ++ '-' :: part ∧ method' = part ++ '-' :: method

theorem Shifted.keyOf_eq (h : Shifted path method path' method') :
    keyOf path method = keyOf path' method' := by
  obtain ⟨part, rfl, rfl⟩ := h
  simp [keyOf]

theorem Shifted.path_ne (h : Shifted path method path' method') : path ≠ path' := by
  obtain ⟨part, rfl, -⟩ := h
  simp

theorem keyOf_eq_keyOf_iff : keyOf path method = keyOf path' method' ↔
    path = path' ∧ method = method' ∨ Shifted path method path' method' ∨
      Shifted path' method' path method := by
  constructor
  · intro h
    rcases List.append_eq_append_iff.1 h with ⟨part, rfl, hm⟩ | ⟨part, rfl, hm⟩
    · cases part with
      | nil => exact Or.inl ⟨(List.append_nil path).symm, (List.cons.inj hm).2⟩
      | cons c part =>
        obtain ⟨rfl, rfl⟩ := List.cons.inj hm
        exact Or.inr (Or.inr ⟨part, rfl, rfl⟩)
    · cases part with
      | nil => exact Or.inl ⟨List.append_nil path', (List.cons.inj hm).2.symm⟩
      | cons c part =>
        obtain ⟨rfl, rfl⟩ := List.cons.inj hm
        exact Or.inr (Or.inl ⟨part, rfl, rfl⟩)
  · rintro (⟨rfl, rfl⟩ | h | h)
    · rfl
    · exact h.keyOf_eq
    · exact h.keyOf_eq.symm

end Resource

namespace Resources

open Resource

theorem eq_of_key_eq {rs : Resources} {r r' : Resource} (h : r ∈ rs.entries) (h' : r' ∈ rs.entries)
    (hk : r.key = r'.key) : r = r' :=
  List.inj_on_of_nodup_map rs.distinct h h' hk

theorem key_of_get? {rs : Resources} {key : Text} {r : Resource} (h : rs.get? key = some r) :
    r.key = key := by
  rw [get?_eq] at h
  exact Keyed.key_of_get? _ h

/-- All endpoints stay in a collection exactly if no two of them are shifted, and a look-up answers
with another endpoint only if the two are shifted. -/
theorem ofList_endpoints (rs : List Resource) :
    let c := ofList rs
    ((∀ r ∈ rs, ∃ r' ∈ c.entries, r'.path = r.path ∧ r'.method = r.method) ↔
        ∀ r ∈ rs, ∀ r' ∈ rs, ¬ Shifted r.path r.method r'.path r'.method) ∧
      ∀ path method r, c.find? path method = some r →
        r.path = path ∧ r.method = method.lower ∨ Shifted r.path r.method path method.lower ∨
          Shifted path method.lower r.path r.method := by
  refine ⟨⟨?_, ?_⟩, ?_⟩
  · intro h r hr r' hr' hs
    obtain ⟨a, ha, hap, ham⟩ := h r hr
    obtain ⟨b, hb, hbp, hbm⟩ := h r' hr'
    have hk : a.key = b.key := by
      rw [key, key, hap, ham, hbp, hbm]
      exact hs.keyOf_eq
    obtain rfl := eq_of_key_eq ha hb hk
    exact hs.path_ne (hap.symm.trans hbp)
  · intro h r hr
    obtain ⟨r', hr', hk⟩ := exists_mem_ofList hr
    rcases keyOf_eq_keyOf_iff.1 hk with heq | hs | hs
    · exact ⟨r', hr', heq⟩
    · exact absurd hs (h r' (mem_of_mem_ofList hr') r hr)
    · exact absurd hs (h r hr r' (mem_of_mem_ofList hr'))
  · intro path method r h
    exact keyOf_eq_keyOf_iff.1 (key_of_get? h)

/-- Two blocks whose endpoints share the key `/devices-m-search`. The second resource takes the
place of the first and answers for it. -/
theorem ofList_endpoints_of_hyphen :
    let read := fun body : String => (readBlock .empty .strict body.toList).outcome
    let resource := fun path method title : String =>
      ({ path := path.toList, method := method.toList, version := none, tags := []
         displayName := title.toList, description := none, deprecated := false
         deprecatedDescription := none, roles := [], params := []
         responses := [⟨200, "ok".toList, []⟩] } : Resource)
    let first := resource "/devices-m" "search" "Search"
    let second := resource "/devices" "m-search" "Discover"
    read "@api \x7bsearch\x7d /devices-m Search" = .ok (some first) ∧
      read "@api \x7bm-search\x7d /devices Discover" = .ok (some second) ∧
      (first.path, first.method) ≠ (second.path, second.method) ∧
      (ofList [first, second]).entries = [second] ∧
      (ofList [first, second]).find? first.path first.method = some second := by
  decide +kernel

theorem find?_of_mem {rs : Resources} {r : Resource} {method : Text} (h : r ∈ rs.entries)
    (hr : r.method.lower = r.method) (hm : method.lower = r.method.lower) :
    rs.find? r.path method = some r := by
  rw [find?, hm, hr, get?_eq]
  exact Keyed.get?_of_mem rs.distinct h

end Resources

theorem Entry.lower_method_of_readRoute {content : Text} {route : Route}
    (h : readRoute content = .ok route) : route.method.lower = route.method := by
  obtain ⟨method, -, h⟩ := bind_eq_ok_iff.1 h
  obtain ⟨path, -, h⟩ := bind_eq_ok_iff.1 h
  obtain rfl := Except.ok.inj h
  exact Text.lower_lower method

theorem lower_method_of_readBlock {table : Definitions} {policy : Policy} {body : Text}
    {r : Resource} (h : (readBlock table policy body).outcome = .ok (some r)) :
    r.method.lower = r.method := by
  obtain ⟨entries, hread, hf⟩ := exists_readAs_of_readBlock h
  have hassembled := Resource.assembledFrom_of_finish hread hf
  obtain ⟨line, route, -, hroute, -, hmethod, -⟩ := hassembled.route
  rw [hmethod]
  exact Entry.lower_method_of_readRoute hroute

namespace Corpus

variable {table : Definitions} {policy : Policy}

theorem readBlock_of_resource? {block : Block.Located} {r : Resource}
    (h : resource? table policy block = some r) :
    (readBlock table policy block.body).outcome = .ok (some r) := by
  unfold resource? at h
  cases ho : (readBlock table policy block.body).outcome with
  | error fault => simp [ho, Except.toOption] at h
  | ok resource =>
    rw [ho] at h
    exact congrArg Except.ok h

/-- What a survey files under a version comes from the blocks of the corpus. -/
theorem exists_block_of_mem_survey {corpus : Corpus} {editions : Editions}
    {version : Option Text}
    (h : (surveyBlocks table policy corpus.blocks [] .empty).outcome = .ok editions)
    (hv : version ∈ editions.versions) :
    ∃ rs, editions.get? version = some rs ∧ ∀ r ∈ rs.entries,
      ∃ block ∈ corpus.blocks, (readBlock table policy block.body).outcome = .ok (some r) := by
  rw [surveyBlocks_of_reads (reads_of_surveyBlocks_eq_ok h)] at h
  obtain rfl := Except.ok.inj h
  rw [Editions.versions_ofList, List.mem_eraseDups] at hv
  refine ⟨_, (Editions.get?_ofList _ version).trans (if_pos hv), fun r hr => ?_⟩
  have hfiled := List.mem_of_mem_filter (Resources.mem_of_mem_ofList hr)
  obtain ⟨block, hb, hblock⟩ := List.mem_filterMap.1 hfiled
  exact ⟨block, hb, readBlock_of_resource? hblock⟩

/-- Every resource of a survey is the answer to its own path and method, in whatever case. -/
theorem surveyBlocks_finds_again (table : Definitions) (policy : Policy) (corpus : Corpus)
    {editions : Editions}
    (h : (surveyBlocks table policy corpus.blocks [] .empty).outcome = .ok editions) :
    ∀ version ∈ editions.versions, ∃ rs, editions.get? version = some rs ∧
      ∀ r ∈ rs.entries, ∀ method : Text, method.lower = r.method.lower →
        rs.find? r.path method = some r := by
  intro version hv
  obtain ⟨rs, hget, hblocks⟩ := exists_block_of_mem_survey h hv
  refine ⟨rs, hget, fun r hr method hm => ?_⟩
  obtain ⟨block, -, hblock⟩ := hblocks r hr
  exact Resources.find?_of_mem hr (lower_method_of_readBlock hblock) hm

/-- A method that ends in a sigma, looked up in a mixture of cases. -/
theorem surveyBlocks_finds_again_of_final_sigma :
    let corpus : Corpus := [⟨"a.py".toList, "\"\"\"@api \x7bΟΔΟΣ\x7d /x X\"\"\"".toList⟩]
    ∃ editions rs r, (surveyBlocks .empty .strict corpus.blocks [] .empty).outcome = .ok editions ∧
      editions.get? none = some rs ∧ r ∈ rs.entries ∧ r.method = "οδος".toList ∧
      rs.find? "/x".toList "οδΟΣ".toList = some r := by
  intro corpus
  have hsurvey : ((surveyBlocks .empty .strict corpus.blocks [] .empty).outcome.toOption.map
      fun editions => (editions.versions, (editions.get? none).map fun rs =>
        rs.entries.map fun r => (r.path, r.method))) =
      some ([none], some [("/x".toList, "οδος".toList)]) := by
    decide +kernel
  cases ho : (surveyBlocks .empty .strict corpus.blocks [] .empty).outcome with
  | error fault => simp [ho, Except.toOption] at hsurvey
  | ok editions =>
    simp only [ho, Except.toOption, Option.map_some, Option.some.injEq, Prod.mk.injEq] at hsurvey
    have hv : none ∈ editions.versions := by simp [hsurvey.1]
    obtain ⟨rs, hg, hfind⟩ := surveyBlocks_finds_again .empty .strict corpus ho none hv
    rw [hg, Option.map_some, Option.some.injEq] at hsurvey
    obtain ⟨r, hr, hroute⟩ := List.mem_map.1 (hsurvey.2 ▸ List.mem_singleton_self _)
    obtain ⟨hpath, hmethod⟩ := Prod.mk.inj hroute
    refine ⟨editions, rs, r, rfl, hg, hr, hmethod, ?_⟩
    rw [← hpath]
    refine hfind r hr _ ?_
    rw [hmethod]
    decide +kernel

end Corpus

end ApiNotes
