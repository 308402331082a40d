import ApiNotes.Proofs.Drafts
import ApiNotes.Proofs.Tokens

/-! # Canonical resources

What a tag line says is in canonical form: its texts are trimmed, those that belong on one line are
on one, and what may be absent is never present and empty. So is every resource that is read, since
its parts come from its lines.
-/

namespace ApiNotes

section Text

open Text

/-- Text that is there and has no blank at its ends. -/
structure Text.Filled (s : Text) : Prop extends Trimmed s where
  ne_nil : s ≠ []

structure Param.Canonical (p : Param) : Prop where
  name_ne_nil : p.name ≠ []
  name_isLine : IsLine p.name
  name_eq_free : '=' ∉ p.name
  type : ∀ t, p.type = some t → t ≠ [] ∧ IsLine t
  default : ∀ t, p.default = some t → t ≠ [] ∧ IsLine t
  description : IsLine p.description

/-- The response of an error: its body is one field with a name and nothing but a type. -/
def Response.IsError (response : Response) : Prop :=
  ∃ field, response.body = [field] ∧ field.name ≠ [] ∧ field.group = none ∧
    field.description = none

structure Resource.Canonical (r : Resource) : Prop where
  path_head : r.path.head? = some '/'
  path_blank : ∀ c ∈ r.path, isBlank c = false
  method : r.method ≠ []
  version : ∀ v, r.version = some v → Filled v
  tags_length : r.tags.length ≤ 1
  tags : ∀ tag ∈ r.tags, Filled tag
  roles : ∀ role ∈ r.roles, Filled role ∧ ',' ∉ role
  params : ∀ p ∈ r.params, p.Canonical
  displayName : IsLine r.displayName
  description : ∀ d, r.description = some d → IsParagraphs d
  deprecated : ∀ d, r.deprecatedDescription = some d → d ≠ [] ∧ r.deprecated = true
  responses : ∃ fields errors, r.responses = ⟨200, "ok".toList, fields⟩ :: errors ∧
    ∀ response ∈ errors, response.IsError

end Text

section Case

theorem mapCase_ne_nil {rows : List CaseRow} {expansions : List (Nat × List Nat)} {c : Char}
    (h : ∀ form ∈ expansions, form.2 ≠ []) : mapCase rows expansions c ≠ [] := by
  unfold mapCase
  split
  · exact List.cons_ne_nil _ _
  · split
    · next n form hf =>
      have hne := h _ (List.mem_of_find?_eq_some hf)
      simpa using hne
    · exact List.cons_ne_nil _ _

theorem Text.lower_ne_nil {s : Text} (h : s ≠ []) : s.lower ≠ [] := by
  obtain ⟨c, s, rfl⟩ := List.exists_cons_of_ne_nil h
  have hc : lowerChar c ≠ [] := mapCase_ne_nil (by decide)
  rw [lower, lowerAfter]
  apply List.append_ne_nil_of_left_ne_nil
  split
  · split <;> exact List.cons_ne_nil _ _
  · exact hc

end Case

section Cutting

theorem Text.splitOnce?_eq_some {sep : Char} {s a b : Text}
    (h : splitOnce? sep s = some (a, b)) : s = a ++ sep :: b ∧ sep ∉ a := by
  induction s generalizing a with
  | nil => cases h
  | cons c s ih =>
    simp only [splitOnce?] at h
    split at h
    · next hc =>
      obtain ⟨rfl, rfl⟩ := Prod.mk.inj (Option.some.inj h)
      exact ⟨by rw [hc]; rfl, List.not_mem_nil⟩
    · next hc =>
      obtain ⟨⟨a', b'⟩, hs, hp⟩ := Option.map_eq_some_iff.1 h
      obtain ⟨rfl, rfl⟩ := Prod.mk.inj hp
      obtain ⟨rfl, hn⟩ := ih hs
      refine ⟨rfl, ?_⟩
      rw [List.mem_cons, not_or]
      exact ⟨Ne.symm hc, hn⟩

theorem Text.splitOnce?_eq_none {sep : Char} {s : Text} (h : splitOnce? sep s = none) :
    sep ∉ s := by
  induction s with
  | nil => exact List.not_mem_nil
  | cons c s ih =>
    simp only [splitOnce?] at h
    split at h
    · cases h
    · next hc =>
      rw [List.mem_cons, not_or]
      exact ⟨Ne.symm hc, ih (Option.map_eq_none_iff.1 h)⟩

theorem Text.splitOnce?_of_not_mem {sep : Char} {s : Text} (h : sep ∉ s) :
    splitOnce? sep s = none := by
  induction s with
  | nil => rfl
  | cons c s ih =>
    rw [List.mem_cons, not_or] at h
    rw [splitOnce?, if_neg (Ne.symm h.1), ih h.2]
    rfl

theorem Text.splitOnce?_append_cons {sep : Char} {a : Text} (h : sep ∉ a) (b : Text) :
    splitOnce? sep (a ++ sep :: b) = some (a, b) := by
  induction a with
  | nil => simp [splitOnce?]
  | cons c a ih =>
    rw [List.mem_cons, not_or] at h
    rw [List.cons_append, splitOnce?, if_neg (Ne.symm h.1), ih h.2]
    rfl

end Cutting

namespace Entry

open Text

/-- What an entry says is in canonical form. -/
def Canonical : Entry → Prop
  | .route r => r.path.head? = some '/' ∧ (∀ c ∈ r.path, isBlank c = false) ∧ r.method ≠ [] ∧
      IsLine r.title
  | .version v => ∀ t, v = some t → Filled t
  | .group g => ∀ t, g = some t → Filled t
  | .deprecated d => ∀ t, d = some t → t ≠ []
  | .roles rs => ∀ role ∈ rs, Filled role ∧ ',' ∉ role
  | .description d => d ≠ [] → IsParagraphs d
  | .param p => p.Canonical
  | .error response => response.IsError
  | .success _ | .reference _ | .other => True

theorem require_eq_ok_iff {tag : Tag} {piece : Piece} {value : Option Text} {s : Text} :
    require tag piece value = .ok s ↔ value = some s := by
  cases value <;> simp [require]

theorem filled_of_nonEmpty?_trim {s t : Text} (h : s.trim.nonEmpty? = some t) : Filled t := by
  obtain ⟨rfl, hne⟩ := nonEmpty?_eq_some_iff.1 h
  exact ⟨trimmed_trim s, hne⟩

theorem isLine_filled? {shape : NameShape} {content t : Text}
    (h : filled? (Fields.ofText shape content).type = some t) : t ≠ [] ∧ IsLine t := by
  obtain ⟨token, ht, hv⟩ := Option.bind_eq_some_iff.1 h
  obtain ⟨rfl, hne⟩ := nonEmpty?_eq_some_iff.1 hv
  exact ⟨hne, Fields.isLine_type ht⟩

theorem canonical_readRoute {content : Text} {route : Route} (h : readRoute content = .ok route) :
    Canonical (.route route) := by
  obtain ⟨method, hm, h⟩ := bind_eq_ok_iff.1 h
  obtain ⟨path, hp, h⟩ := bind_eq_ok_iff.1 h
  rw [require_eq_ok_iff] at hm hp
  obtain rfl := Except.ok.inj h
  obtain ⟨token, ht, rfl⟩ := Option.map_eq_some_iff.1 hp
  obtain ⟨hhead, hblank⟩ := Fields.path_of_name ht
  refine ⟨hhead, hblank, lower_ne_nil (isLine_filled? hm).1, ?_⟩
  -- With the projection reduced, `singleLine` is not unfolded to compare the two sides.
  dsimp only
  exact isLine_singleLine _

theorem canonical_readRoles (content : Text) : Canonical (.roles (readRoles content)) := by
  intro role hr
  obtain ⟨hm, hne⟩ := List.mem_filter.1 hr
  obtain ⟨piece, hp, rfl⟩ := List.mem_map.1 hm
  exact ⟨⟨trimmed_trim piece, by simpa using hne⟩,
    fun hc => sep_not_mem_of_mem_split hp (mem_of_mem_trim hc)⟩

@[simp] theorem insideBrackets?_bracketed (inner : Text) :
    insideBrackets? ('[' :: (inner ++ [']'])) = some inner := by
  simp [insideBrackets?]

theorem insideBrackets?_of_word {word : Text} (h : ∀ c ∈ word, Fields.isWordChar c = true) :
    insideBrackets? word = none := by
  unfold insideBrackets?
  split
  · exact absurd (h '[' List.mem_cons_self) (by decide)
  · rfl

theorem trimmed_of_word {word : Text} (h : ∀ c ∈ word, Fields.isWordChar c = true) :
    Trimmed word := by
  refine trimmed_of_forall fun c hc => ?_
  have hword := h c hc
  simp only [Fields.isWordChar, Bool.and_eq_true, Bool.not_eq_true'] at hword
  exact hword.1

theorem isLine_unbracketed {name : Text} (h : Fields.IsName name) :
    IsLine (((insideBrackets? name).map trim).getD name) := by
  cases h with
  | bracketed hfree =>
    rw [insideBrackets?_bracketed]
    exact isLine_trim fun hn => hfree _ hn (by decide)
  | bare hne hword =>
    rw [insideBrackets?_of_word hword]
    exact ⟨trimmed_of_word hword, fun hn => absurd (hword _ hn) (by decide)⟩

theorem canonical_nameAndDefault {s : Text} (hs : IsLine s) :
    (IsLine (nameAndDefault s).1 ∧ '=' ∉ (nameAndDefault s).1) ∧
      ∀ t, (nameAndDefault s).2 = some t → t ≠ [] ∧ IsLine t := by
  unfold nameAndDefault
  split
  · next a b hsplit =>
    obtain ⟨rfl, ha⟩ := splitOnce?_eq_some hsplit
    have hn := hs.newline_not_mem
    rw [List.mem_append, List.mem_cons, not_or, not_or] at hn
    refine ⟨⟨isLine_trim hn.1, fun he => ha (mem_of_mem_trim he)⟩, fun t ht => ?_⟩
    obtain ⟨rfl, hne⟩ := nonEmpty?_eq_some_iff.1 ht
    exact ⟨hne, isLine_trim hn.2.2⟩
  · next hsplit => exact ⟨⟨hs, splitOnce?_eq_none hsplit⟩, nofun⟩

theorem canonical_readParam {kind : ParamKind} {content : Text} {p : Param}
    (h : readParam kind content = .ok p) : p.Canonical := by
  obtain ⟨raw, hraw, h⟩ := bind_eq_ok_iff.1 h
  obtain ⟨name, hname, h⟩ := bind_eq_ok_iff.1 h
  rw [require_eq_ok_iff] at hraw hname
  obtain ⟨token, ht, rfl⟩ := Option.map_eq_some_iff.1 hraw
  obtain ⟨rfl, hne⟩ := nonEmpty?_eq_some_iff.1 hname
  obtain rfl := Except.ok.inj h
  obtain ⟨⟨hline, heq⟩, hdefault⟩ :=
    canonical_nameAndDefault (isLine_unbracketed (Fields.isName_of_name ht))
  refine ⟨hne, hline, heq, fun _ => isLine_filled?, hdefault, ?_⟩
  dsimp only
  exact isLine_singleLine _

theorem isError_readError {content : Text} {response : Response}
    (h : readError content = .ok response) : response.IsError := by
  obtain ⟨name, hn, h⟩ := bind_eq_ok_iff.1 h
  rw [require_eq_ok_iff] at hn
  obtain ⟨token, ht, rfl⟩ := Option.map_eq_some_iff.1 hn
  obtain rfl := Except.ok.inj h
  exact ⟨_, rfl, (Fields.isName_of_name ht).ne_nil, rfl, rfl⟩

theorem canonical_ofTag {tag : Tag} {content : Text} {entry : Entry}
    (h : ofTag tag content = .ok entry) : entry.Canonical := by
  cases tag with
  | route =>
    obtain ⟨route, hr, rfl⟩ := map_eq_ok_iff.1 h
    exact canonical_readRoute hr
  | version =>
    obtain rfl := Except.ok.inj h
    exact fun t => filled_of_nonEmpty?_trim
  | group =>
    obtain rfl := Except.ok.inj h
    exact fun t => filled_of_nonEmpty?_trim
  | deprecated =>
    obtain rfl := Except.ok.inj h
    exact fun t ht => (nonEmpty?_eq_some_iff.1 ht).2
  | permission =>
    obtain rfl := Except.ok.inj h
    exact canonical_readRoles content
  | description =>
    obtain rfl := Except.ok.inj h
    exact isParagraphs_paragraphs
  | param kind =>
    obtain ⟨p, hp, rfl⟩ := map_eq_ok_iff.1 h
    exact canonical_readParam hp
  | success =>
    obtain ⟨field, -, rfl⟩ := map_eq_ok_iff.1 h
    trivial
  | error =>
    obtain ⟨response, hr, rfl⟩ := map_eq_ok_iff.1 h
    exact isError_readError hr
  | use =>
    obtain rfl := Except.ok.inj h
    trivial

theorem canonical_ofLine {line : Text} {entry : Entry} (h : ofLine line = .ok entry) :
    entry.Canonical := by
  unfold ofLine at h
  split at h
  · exact canonical_ofTag h
  · obtain rfl := Except.ok.inj h
    trivial

end Entry

section Resource

open Text

variable {entries : List Entry}

/-- What is picked out of canonical entries is the content of a canonical entry. -/
theorem canonical_of_mem_filterMap {α : Type} {pick : Entry → Option α} {make : α → Entry} {a : α}
    (hc : ∀ entry ∈ entries, entry.Canonical)
    (hpick : ∀ {entry a}, pick entry = some a ↔ entry = make a)
    (h : a ∈ entries.filterMap pick) : (make a).Canonical := by
  obtain ⟨entry, he, hp⟩ := List.mem_filterMap.1 h
  exact hpick.1 hp ▸ hc entry he

theorem Draft.isParagraphs_describe {description : Option Text} {paragraphs t : Text}
    (hd : ∀ t, description = some t → IsParagraphs t)
    (hp : paragraphs ≠ [] → IsParagraphs paragraphs)
    (h : describe description paragraphs = some t) : IsParagraphs t := by
  unfold describe at h
  split at h
  · exact hd t h
  · next hne =>
    have hp := hp (by simpa using hne)
    split at h
    · obtain rfl := Option.some.inj h
      exact (hd _ rfl).append hp
    · obtain rfl := Option.some.inj h
      exact hp

theorem Draft.isParagraphs_foldl_describe {texts : List Text} {t : Text}
    (hp : ∀ p ∈ texts, p ≠ [] → IsParagraphs p)
    (h : texts.foldl describe none = some t) : IsParagraphs t := by
  induction texts using List.reverseRecOn generalizing t with
  | nil => cases h
  | append_singleton texts p ih =>
    rw [List.foldl_concat] at h
    refine isParagraphs_describe (fun t => ih fun p hm => hp p ?_) (hp p ?_) h
    · exact List.mem_append_left _ hm
    · exact List.mem_append_right _ List.mem_cons_self

theorem mem_of_getLast?_join {values : List (Option Text)} {t : Text}
    (h : values.getLast?.join = some t) : some t ∈ values :=
  List.mem_of_getLast? (Option.join_eq_some_iff.1 h)

theorem Resource.canonical_of_finish {r : Resource} (hc : ∀ entry ∈ entries, entry.Canonical)
    (h : (Draft.ofEntries entries).finish = .ok r) : r.Canonical := by
  unfold Draft.finish at h
  split at h
  · cases h
  · next route hroute =>
    obtain rfl := Except.ok.inj h
    obtain ⟨hhead, hblank, hmethod, htitle⟩ :=
      canonical_of_mem_filterMap hc Entry.route?_eq_some_iff (List.mem_of_getLast? hroute)
    refine ⟨hhead, hblank, hmethod, ?_, ?_, ?_, ?_, ?_, htitle, ?_, ?_, ?_⟩
    · intro v hv
      exact canonical_of_mem_filterMap hc Entry.version?_eq_some_iff (mem_of_getLast?_join hv) v rfl
    · exact Option.length_toList_le
    · intro tag ht
      have hg := Option.mem_toList.1 ht
      exact canonical_of_mem_filterMap hc Entry.group?_eq_some_iff (mem_of_getLast?_join hg) tag rfl
    · intro role hrole
      obtain ⟨roles, hm, hr⟩ := List.mem_flatten.1 hrole
      exact canonical_of_mem_filterMap hc Entry.roles?_eq_some_iff hm role hr
    · intro p hp
      exact canonical_of_mem_filterMap hc Entry.param?_eq_some_iff hp
    · intro d hd
      exact Draft.isParagraphs_foldl_describe
        (fun p hp => canonical_of_mem_filterMap hc Entry.description?_eq_some_iff hp) hd
    · intro d hd
      have hm := Option.join_eq_some_iff.1 hd
      refine ⟨?_, Option.isSome_iff_exists.2 ⟨_, hm⟩⟩
      exact canonical_of_mem_filterMap hc Entry.deprecated?_eq_some_iff
        (List.mem_of_getLast? hm) d rfl
    · refine ⟨_, _, rfl, fun response hr => ?_⟩
      exact canonical_of_mem_filterMap hc Entry.error?_eq_some_iff hr

theorem Resource.canonical_of_readBlock {table : Definitions} {policy : Policy} {body : Text}
    {r : Resource} (h : (readBlock table policy body).outcome = .ok (some r)) : r.Canonical := by
  obtain ⟨entries, hread, hf⟩ := exists_readAs_of_readBlock h
  refine canonical_of_finish (fun entry he => ?_) hf
  obtain ⟨line, -, hl⟩ := hread.exists_line he
  exact Entry.canonical_ofLine hl

end Resource

/-- Every resource that a block is read as is canonical. A reading that has come through the lines
of a block has a route, so that its draft can be finished. -/
theorem readBlock_canonical (table : Definitions) (policy : Policy) (body : Text) :
    (∀ r, (readBlock table policy body).outcome = .ok (some r) → r.Canonical) ∧
      ((TagLine.ofBody body).head?.map TagLine.keyword = some Tag.route.keyword →
        ∀ draft, (Reader.run policy (.ofLines table (TagLine.ofBody body)) {} []).outcome =
          .ok draft → ∃ r, draft.finish = .ok r) := by
  refine ⟨fun r => Resource.canonical_of_readBlock, fun hroute draft h => ?_⟩
  rw [run_ofLines] at h
  obtain ⟨entries, -, -, hf⟩ := exists_finish_of_play hroute h
  exact hf

theorem readBlock_canonical_of_blanks :
    let body := ("@api \x7b GET \x7d /x  A \n title\n@apiVersion  1 \n@apiPermission a, ,b\n" ++
      "@apiParam \x7bString\x7d [ n = v ] Some\n  text\n@apiError (404) Gone No more\n" ++
      "@apiDescription One\ntwo\n\n three").toList
    let r : Resource :=
      { path := "/x".toList, method := "get".toList, version := some ['1'], tags := []
        displayName := "A title".toList, description := some "One two\nthree".toList
        deprecated := false, deprecatedDescription := none, roles := [['a'], ['b']]
        params :=
          [⟨.form, ['n'], none, some "String".toList, some ['v'], "Some text".toList, false⟩]
        responses := [⟨200, "ok".toList, []⟩,
          ⟨404, "No more".toList, [⟨"Gone".toList, none, none, none⟩]⟩] }
    (readBlock .empty .strict body).outcome = .ok (some r) ∧ r.Canonical ∧
      ∃ draft, (Reader.run .strict (.ofLines .empty (TagLine.ofBody body)) {} []).outcome =
        .ok draft ∧ ∃ r, draft.finish = .ok r := by
  intro body r
  have hread : (readBlock .empty .strict body).outcome = .ok (some r) := by decide +kernel
  have hroute : (TagLine.ofBody body).head?.map TagLine.keyword = some Tag.route.keyword := by
    by_contra hn
    simp [readBlock, hn] at hread
  have hrun := hread
  simp only [readBlock, hroute, ↓reduceIte] at hrun
  obtain ⟨r', hb, -⟩ := map_eq_ok_iff.1 hrun
  obtain ⟨draft, hd, -⟩ := bind_eq_ok_iff.1 hb
  obtain ⟨hcanonical, hfinish⟩ := readBlock_canonical .empty .strict body
  exact ⟨hread, hcanonical r hread, draft, hd, hfinish hroute draft hd⟩

end ApiNotes
