import ApiNotes.Document.Markdown
import ApiNotes.Proofs.Canonical
import ApiNotes.Proofs.Lookup

/-! # Links of the index

The link target of a resource is made of its method and of its path, each without the characters
that an anchor leaves out. So two resources of a version share a target exactly if these anchors
agree, or if they cut the same text at different hyphens.
-/

namespace ApiNotes.Markdown

open Text Resource

def methodAnchor (r : Resource) : Text := slug r.method.upper

/-- What an anchor keeps of a path: its letters, numbers and hyphens, in lower case. -/
def pathAnchor (r : Resource) : Text :=
  r.path.lower.filter fun c => isAlphanumeric c || c == '-'

section Slug

variable {s : Text} {r r' : Resource}

/-- The words of a heading make its anchor one by one, since a space ends the context of case. -/
theorem slug_append_space (s t : Text) : slug (s ++ ' ' :: t) = slug s ++ '-' :: slug t := by
  unfold slug
  rw [lower_append_space, List.filter_append, List.filter_cons_of_pos (by simp), replace_append]
  rfl

theorem slug_of_space_not_mem (h : ' ' ∉ s) :
    slug s = s.lower.filter fun c => isAlphanumeric c || c == '-' := by
  have hlower : ' ' ∉ s.lower := fun hm => h (space_mem_of_mem_lowerAfter hm)
  have hfilter : (s.lower.filter fun c => isAlphanumeric c || c == ' ' || c == '-') =
      s.lower.filter fun c => isAlphanumeric c || c == '-' := by
    refine List.filter_congr fun c hc => ?_
    have hspace : c ≠ ' ' := fun heq => hlower (heq ▸ hc)
    rw [beq_false_of_ne hspace, Bool.or_false]
  rw [slug, hfilter]
  exact replace_of_not_mem (fun hm => hlower (List.mem_of_mem_filter hm)) _

theorem slug_heading (h : r.Canonical) :
    slug (heading r) = keyOf (methodAnchor r) (pathAnchor r) := by
  have hspace : ' ' ∉ r.path := fun hm => absurd (h.path_blank ' ' hm) (by decide)
  rw [heading, slug_append_space, slug_of_space_not_mem hspace]
  rfl

end Slug

theorem exists_of_entries_eq {outcome : Except Fault Editions} {version : Option Text}
    {entries : List Resource}
    (h : (outcome.toOption.bind fun editions => editions.get? version).map Resources.entries =
      some entries) :
    ∃ editions rs, outcome = .ok editions ∧ version ∈ editions.versions ∧
      editions.get? version = some rs ∧ rs.entries = entries := by
  obtain ⟨rs, hrs, hentries⟩ := Option.map_eq_some_iff.1 h
  obtain ⟨editions, he, hget⟩ := Option.bind_eq_some_iff.1 hrs
  cases outcome with
  | error fault => cases he
  | ok found =>
    obtain rfl := Option.some.inj he
    refine ⟨found, rs, rfl, ?_, hget, hentries⟩
    by_contra hv
    rw [(Editions.get?_eq_none_iff _ _).2 hv] at hget
    cases hget

/-- In the index of a version, a resource is linked by the anchors of its method and of its path.
Two resources have one link target exactly if these agree or are shifted at a hyphen. -/
theorem surveyBlocks_index_links (table : Definitions) (policy : Policy) (corpus : Corpus)
    {editions : Editions}
    (h : (Corpus.surveyBlocks table policy corpus.blocks [] .empty).outcome = .ok editions) :
    ∀ version ∈ editions.versions, ∃ rs, editions.get? version = some rs ∧
      (∀ r ∈ rs.entries, ∃ label, indexItem r = "* [".toList ++ label ++ "](#".toList ++
        (methodAnchor r ++ '-' :: pathAnchor r) ++ [')']) ∧
      ∀ r ∈ rs.entries, ∀ r' ∈ rs.entries,
        (slug (heading r) = slug (heading r') ↔
          methodAnchor r = methodAnchor r' ∧ pathAnchor r = pathAnchor r' ∨
            Shifted (methodAnchor r) (pathAnchor r) (methodAnchor r') (pathAnchor r') ∨
            Shifted (methodAnchor r') (pathAnchor r') (methodAnchor r) (pathAnchor r)) := by
  intro version hv
  obtain ⟨rs, hrs, hread⟩ := Corpus.exists_block_of_mem_survey h hv
  have hslug : ∀ r ∈ rs.entries, slug (heading r) = keyOf (methodAnchor r) (pathAnchor r) := by
    intro r hr
    obtain ⟨block, -, hblock⟩ := hread r hr
    exact slug_heading (canonical_of_readBlock hblock)
  refine ⟨rs, hrs, fun r hr => ?_, fun r hr r' hr' => ?_⟩
  · refine ⟨if r.displayName.isEmpty then heading r else r.displayName, ?_⟩
    exact congrArg (fun target => _ ++ target ++ [')']) (hslug r hr)
  · rw [hslug r hr, hslug r' hr']
    exact keyOf_eq_keyOf_iff

/-- Methods and paths that are cut at different hyphens share a link target, and a path in another
case is linked as the same path in lower case. -/
theorem surveyBlocks_index_links_of_hyphen :
    let resource := fun path method : String =>
      ({ path := path.toList, method := method.toList, version := none, tags := []
         displayName := [], description := none, deprecated := false
         deprecatedDescription := none, roles := [], params := []
         responses := [⟨200, "ok".toList, []⟩] } : Resource)
    let corpus : Corpus := [⟨"a.py".toList, ("\"\"\"@api \x7bget-a\x7d /b\"\"\"\n" ++
      "\"\"\"@api \x7bget\x7d /A-B\"\"\"\n\"\"\"@api \x7bget\x7d /b\"\"\"").toList⟩]
    ∃ editions rs,
      (Corpus.surveyBlocks .empty .strict corpus.blocks [] .empty).outcome = .ok editions ∧
      editions.get? none = some rs ∧
      rs.entries = [resource "/b" "get-a", resource "/A-B" "get", resource "/b" "get"] ∧
      slug (heading (resource "/b" "get-a")) = slug (heading (resource "/A-B" "get")) ∧
      slug (heading (resource "/b" "get-a")) ≠ slug (heading (resource "/b" "get")) := by
  intro resource corpus
  have hsurvey : ((Corpus.surveyBlocks .empty .strict corpus.blocks [] .empty).outcome.toOption.bind
      fun editions => editions.get? none).map Resources.entries =
      some [resource "/b" "get-a", resource "/A-B" "get", resource "/b" "get"] := by
    decide +kernel
  obtain ⟨editions, rs, hok, hv, hget, hentries⟩ := exists_of_entries_eq hsurvey
  obtain ⟨rs', hget', -, htargets⟩ := surveyBlocks_index_links .empty .strict corpus hok none hv
  obtain rfl := Option.some.inj (hget.symm.trans hget')
  rw [hentries] at htargets
  refine ⟨editions, rs, hok, hget, hentries, ?_, ?_⟩
  · refine (htargets _ (by simp) _ (by simp)).2 (Or.inr (Or.inl ⟨['a'], ?_, ?_⟩))
    · decide +kernel
    · decide +kernel
  · intro heq
    rcases (htargets _ (by simp) _ (by simp)).1 heq with
      ⟨hmethod, -⟩ | ⟨part, -, hpath⟩ | ⟨part, hmethod, -⟩
    · revert hmethod
      decide +kernel
    · -- The paths are the same, so that no part of one can be left over.
      have hlen := congrArg List.length hpath
      simp only [List.length_append, List.length_cons, pathAnchor, resource] at hlen
      omega
    · have hlen := congrArg List.length hmethod
      have hshort : (methodAnchor (resource "/b" "get")).length <
          (methodAnchor (resource "/b" "get-a")).length := by decide +kernel
      rw [List.length_append] at hlen
      omega

/-- A path with an underscore and one with a slash in its place have the same link target. -/
theorem surveyBlocks_index_links_of_underscore :
    let resource := fun path title : String =>
      ({ path := path.toList, method := "get".toList, version := none, tags := []
         displayName := title.toList, description := none, deprecated := false
         deprecatedDescription := none, roles := [], params := []
         responses := [⟨200, "ok".toList, []⟩] } : Resource)
    let corpus : Corpus := [⟨"a.py".toList, ("\"\"\"@api \x7bget\x7d /file_list Names\"\"\"\n" ++
      "\"\"\"@api \x7bget\x7d /file/list Files\"\"\"").toList⟩]
    let first := resource "/file_list" "Names"
    let second := resource "/file/list" "Files"
    ∃ editions rs, (corpus.survey .strict).outcome = .ok editions ∧
      editions.get? none = some rs ∧ rs.entries = [first, second] ∧ first.path ≠ second.path ∧
      indexItem first = "* [Names](#get-filelist)".toList ∧
      indexItem second = "* [Files](#get-filelist)".toList := by
  intro resource corpus first second
  have hsurvey : ((corpus.survey .strict).outcome.toOption.bind
      fun editions => editions.get? none).map Resources.entries = some [first, second] := by
    decide +kernel
  obtain ⟨editions, rs, hok, -, hget, hentries⟩ := exists_of_entries_eq hsurvey
  exact ⟨editions, rs, hok, hget, hentries, by decide, by decide +kernel, by decide +kernel⟩

end ApiNotes.Markdown
