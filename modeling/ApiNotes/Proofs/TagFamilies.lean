import ApiNotes.Proofs.Drafts

/-! # Families of tags

The tags of a block fall into families, and each part of a resource comes from the lines of one
family. So lines of different families can change places, and lines with an unknown tag can come
and go.
-/

namespace ApiNotes

/-- The tags that fill one part of a resource; the parameter tags fill theirs together. -/
inductive Family where
  | route
  | version
  | group
  | deprecated
  | permission
  | description
  | param
  | success
  | error
  | use
  deriving DecidableEq, Repr

def Tag.family : Tag → Family
  | .route => .route
  | .version => .version
  | .group => .group
  | .deprecated => .deprecated
  | .permission => .permission
  | .description => .description
  | .param _ => .param
  | .success => .success
  | .error => .error
  | .use => .use

namespace TagLine

def family? (line : Text) : Option Family := (Tag.ofKeyword? (keyword line)).map Tag.family

/-- The lines of one family, in order. -/
def linesOf (family : Family) (lines : List Text) : List Text :=
  lines.filter fun line => family? line = some family

/-- What the lines of one family say after their keywords, in order. -/
def textsOf (family : Family) (lines : List Text) : List Text :=
  (linesOf family lines).map content

def known (lines : List Text) : List Text := lines.filter fun line => (family? line).isSome

end TagLine

open TagLine

/-- Each part of the resource is what the lines of one family say: the last of them, or all of them
in order. -/
structure Resource.AssembledFrom (lines : List Text) (r : Resource) : Prop where
  route : ∃ line route, (linesOf .route lines).getLast? = some line ∧
    Entry.readRoute (content line) = .ok route ∧
      r.path = route.path ∧ r.method = route.method ∧ r.displayName = route.title
  version : r.version =
    (linesOf .version lines).getLast?.bind fun line => (content line).trim.nonEmpty?
  tags : r.tags =
    ((linesOf .group lines).getLast?.bind fun line => (content line).trim.nonEmpty?).toList
  deprecated : r.deprecated = true ↔ linesOf .deprecated lines ≠ []
  deprecatedDescription : r.deprecatedDescription =
    (linesOf .deprecated lines).getLast?.bind fun line => (Text.singleLine (content line)).nonEmpty?
  roles : r.roles = (linesOf .permission lines).flatMap fun line => Entry.readRoles (content line)
  description : r.description =
    ((linesOf .description lines).map fun line => Text.paragraphs (content line)).foldl
      Draft.describe none
  params : List.Forall₂
    (fun line p => ∃ kind, keyword line = (Tag.param kind).keyword ∧
      Entry.readParam kind (content line) = .ok p ∧ p.kind = kind)
    (linesOf .param lines) r.params
  responses : ∃ fields errors, r.responses = ⟨200, "ok".toList, fields⟩ :: errors ∧
    List.Forall₂ (fun line field => Entry.readSuccess (content line) = .ok field)
      (linesOf .success lines) fields ∧
    List.Forall₂ (fun line response => Entry.readError (content line) = .ok response)
      (linesOf .error lines) errors

namespace Entry

variable {line : Text} {entry : Entry}

def family? : Entry → Option Family
  | .route _ => some .route
  | .version _ => some .version
  | .group _ => some .group
  | .deprecated _ => some .deprecated
  | .roles _ => some .permission
  | .description _ => some .description
  | .param _ => some .param
  | .success _ => some .success
  | .error _ => some .error
  | .reference _ => some .use
  | .other => none

def SaidBy (line : Text) : Entry → Prop
  | .route r => readRoute (content line) = .ok r
  | .version v => v = (content line).trim.nonEmpty?
  | .group g => g = (content line).trim.nonEmpty?
  | .deprecated d => d = (Text.singleLine (content line)).nonEmpty?
  | .roles rs => rs = readRoles (content line)
  | .description d => d = Text.paragraphs (content line)
  | .param p => ∃ kind, keyword line = (Tag.param kind).keyword ∧
      readParam kind (content line) = .ok p ∧ p.kind = kind
  | .success field => readSuccess (content line) = .ok field
  | .error response => readError (content line) = .ok response
  | .reference _ | .other => True

theorem kind_of_readParam {kind : ParamKind} {content : Text} {p : Param}
    (h : readParam kind content = .ok p) : p.kind = kind := by
  obtain ⟨raw, -, h⟩ := bind_eq_ok_iff.1 h
  obtain ⟨name, -, h⟩ := bind_eq_ok_iff.1 h
  obtain rfl := Except.ok.inj h
  rfl

theorem family?_and_saidBy_of_ofTag {tag : Tag} (hk : keyword line = tag.keyword)
    (h : ofTag tag (content line) = .ok entry) :
    entry.family? = some tag.family ∧ entry.SaidBy line := by
  cases tag with
  | route =>
    obtain ⟨route, hr, rfl⟩ := map_eq_ok_iff.1 h
    exact ⟨rfl, hr⟩
  | param kind =>
    obtain ⟨p, hp, rfl⟩ := map_eq_ok_iff.1 h
    exact ⟨rfl, kind, hk, hp, kind_of_readParam hp⟩
  | success =>
    obtain ⟨field, hf, rfl⟩ := map_eq_ok_iff.1 h
    exact ⟨rfl, hf⟩
  | error =>
    obtain ⟨response, hr, rfl⟩ := map_eq_ok_iff.1 h
    exact ⟨rfl, hr⟩
  | _ =>
    obtain rfl := Except.ok.inj h
    exact ⟨rfl, by trivial⟩

theorem family?_and_saidBy_of_ofLine (h : ofLine line = .ok entry) :
    entry.family? = TagLine.family? line ∧ entry.SaidBy line := by
  unfold ofLine at h
  split at h
  · next tag ht =>
    have hk := (Tag.keyword_eq_of_ofKeyword? ht).symm
    rw [TagLine.family?, ht, Option.map_some]
    exact family?_and_saidBy_of_ofTag hk h
  · next ht =>
    obtain rfl := Except.ok.inj h
    rw [TagLine.family?, ht, Option.map_none]
    exact ⟨rfl, trivial⟩

theorem ofLine_of_unknown (h : TagLine.family? line = none) : ofLine line = .ok .other := by
  rw [TagLine.family?, Option.map_eq_none_iff] at h
  rw [ofLine, h]

end Entry

section Families

variable {lines lines' : List Text} {entries : List Entry} {r r' : Resource}

/-- The entries that are picked for a family are those that its lines say, in order. -/
theorem ReadAs.forall₂_linesOf {α : Type} {pick : Entry → Option α} {make : α → Entry}
    (h : ReadAs lines entries) (family : Family)
    (hpick : ∀ {entry a}, pick entry = some a ↔ entry = make a)
    (hfamily : ∀ entry : Entry, (pick entry).isSome = decide (entry.family? = some family)) :
    List.Forall₂ (fun line a => (make a).SaidBy line) (linesOf family lines)
      (entries.filterMap pick) := by
  induction h with
  | nil => exact .nil
  | @cons line entry lines entries he _ ih =>
    obtain ⟨hf, hs⟩ := Entry.family?_and_saidBy_of_ofLine he
    have hsome : (pick entry).isSome = true ↔ TagLine.family? line = some family := by
      rw [hfamily, decide_eq_true_iff, hf]
    by_cases hl : TagLine.family? line = some family
    · obtain ⟨a, ha⟩ := Option.isSome_iff_exists.1 (hsome.2 hl)
      rw [linesOf, List.filter_cons_of_pos (by simpa using hl), List.filterMap_cons_some ha]
      exact .cons (hpick.1 ha ▸ hs) ih
    · have hnone : pick entry = none := by simpa using mt hsome.1 hl
      rw [linesOf, List.filter_cons_of_neg (by simpa using hl), List.filterMap_cons_none hnone]
      exact ih

theorem eq_map_of_forall₂ {α β : Type} {f : α → β} {as : List α} {bs : List β}
    (h : List.Forall₂ (fun a b => b = f a) as bs) : bs = as.map f := by
  induction h with
  | nil => rfl
  | cons hb _ ih => rw [hb, ih, List.map_cons]

theorem join_getLast?_map {α β : Type} (f : α → Option β) (as : List α) :
    (as.map f).getLast?.join = as.getLast?.bind f := by
  rw [List.getLast?_map]
  cases as.getLast? <;> rfl

theorem getLast?_of_forall₂ {α β : Type} {R : α → β → Prop} {as : List α} {bs : List β} {b : β}
    (h : List.Forall₂ R as bs) (hb : bs.getLast? = some b) :
    ∃ a, as.getLast? = some a ∧ R a b := by
  -- The relation is between lists from the front, so that the last elements are made the first.
  have hrev := List.forall₂_reverse_iff.2 h
  rw [List.getLast?_eq_head?_reverse] at hb ⊢
  generalize as.reverse = as at hrev ⊢
  generalize bs.reverse = bs at hrev hb
  cases hrev with
  | nil => cases hb
  | cons hr _ =>
    obtain rfl := Option.some.inj hb
    exact ⟨_, rfl, hr⟩

theorem Resource.assembledFrom_of_finish (h : ReadAs lines entries)
    (hf : (Draft.ofEntries entries).finish = .ok r) : r.AssembledFrom lines := by
  have hroute :=
    h.forall₂_linesOf .route Entry.route?_eq_some_iff fun entry => by cases entry <;> rfl
  have hversion := eq_map_of_forall₂ <|
    h.forall₂_linesOf .version Entry.version?_eq_some_iff fun entry => by cases entry <;> rfl
  have hgroup := eq_map_of_forall₂ <|
    h.forall₂_linesOf .group Entry.group?_eq_some_iff fun entry => by cases entry <;> rfl
  have hdeprecated := eq_map_of_forall₂ <|
    h.forall₂_linesOf .deprecated Entry.deprecated?_eq_some_iff fun entry => by cases entry <;> rfl
  have hroles := eq_map_of_forall₂ <|
    h.forall₂_linesOf .permission Entry.roles?_eq_some_iff fun entry => by cases entry <;> rfl
  have hdescription := eq_map_of_forall₂ <|
    h.forall₂_linesOf .description Entry.description?_eq_some_iff fun entry => by
      cases entry <;> rfl
  have hparams :=
    h.forall₂_linesOf .param Entry.param?_eq_some_iff fun entry => by cases entry <;> rfl
  have hsuccesses :=
    h.forall₂_linesOf .success Entry.success?_eq_some_iff fun entry => by cases entry <;> rfl
  have herrors :=
    h.forall₂_linesOf .error Entry.error?_eq_some_iff fun entry => by cases entry <;> rfl
  unfold Draft.finish at hf
  split at hf
  · cases hf
  · next route hr =>
    obtain rfl := Except.ok.inj hf
    obtain ⟨line, hlast, hread⟩ := getLast?_of_forall₂ hroute hr
    refine ⟨⟨line, route, hlast, hread, rfl, rfl, rfl⟩, ?_, ?_, ?_, ?_, ?_, ?_, hparams,
      _, _, rfl, hsuccesses, herrors⟩
    all_goals dsimp only [Draft.ofEntries]
    · rw [hversion, join_getLast?_map]
    · rw [hgroup, join_getLast?_map]
    · rw [hdeprecated, List.getLast?_isSome, ne_eq, List.map_eq_nil_iff]
    · rw [hdeprecated, join_getLast?_map]
    · rw [hroles, List.flatMap_def]
    · rw [hdescription]

/-- A resource is assembled from the lines of its block and of the definitions that it refers to. -/
theorem Resource.assembledFrom_of_readBlock {table : Definitions} {policy : Policy} {body : Text}
    (h : (readBlock table policy body).outcome = .ok (some r)) :
    r.AssembledFrom (Item.lines (inline table [] (TagLine.ofBody body))) := by
  obtain ⟨entries, hread, hfinish⟩ := exists_readAs_of_readBlock h
  exact assembledFrom_of_finish hread hfinish

theorem Resource.AssembledFrom.congr
    (hlines : ∀ family, linesOf family lines = linesOf family lines')
    (h : r.AssembledFrom lines) : r.AssembledFrom lines' := by
  obtain ⟨h₁, h₂, h₃, h₄, h₅, h₆, h₇, h₈, h₉⟩ := h
  rw [hlines] at h₁ h₂ h₃ h₄ h₅ h₆ h₇ h₈
  simp only [hlines] at h₉
  exact ⟨h₁, h₂, h₃, h₄, h₅, h₆, h₇, h₈, h₉⟩

theorem eq_of_forall₂_ok {ε α : Type} {lines : List Text} {f : Text → Except ε α}
    {as bs : List α} (ha : List.Forall₂ (fun line a => f line = .ok a) lines as)
    (hb : List.Forall₂ (fun line b => f line = .ok b) lines bs) : as = bs := by
  refine List.right_unique_forall₂' ?_ ha hb
  intro line a b ha hb
  exact Except.ok.inj (ha.symm.trans hb)

theorem Resource.AssembledFrom.unique (h : r.AssembledFrom lines) (h' : r'.AssembledFrom lines) :
    r = r' := by
  obtain ⟨line, route, hl, hr, hpath, hmethod, htitle⟩ := h.route
  obtain ⟨line', route', hl', hr', hpath', hmethod', htitle'⟩ := h'.route
  obtain rfl := Option.some.inj (hl.symm.trans hl')
  obtain rfl := Except.ok.inj (hr.symm.trans hr')
  obtain ⟨fields, errors, hresponses, hf, he⟩ := h.responses
  obtain ⟨fields', errors', hresponses', hf', he'⟩ := h'.responses
  obtain rfl := eq_of_forall₂_ok hf hf'
  obtain rfl := eq_of_forall₂_ok he he'
  have hparams : r.params = r'.params := by
    refine List.right_unique_forall₂' ?_ h.params h'.params
    rintro line p p' ⟨kind, hk, hp, -⟩ ⟨kind', hk', hp', -⟩
    -- A line has one keyword, and no two kinds of parameters share theirs.
    have hkind := (Tag.ofKeyword?_keyword (.param kind)).symm.trans
      (hk.symm.trans hk' ▸ Tag.ofKeyword?_keyword (.param kind'))
    obtain rfl := Tag.param.inj (Option.some.inj hkind)
    exact Except.ok.inj (hp.symm.trans hp')
  have hdeprecated : r.deprecated = r'.deprecated :=
    Bool.eq_iff_iff.2 (h.deprecated.trans h'.deprecated.symm)
  cases r
  cases r'
  simp only [Resource.mk.injEq]
  exact ⟨hpath.trans hpath'.symm, hmethod.trans hmethod'.symm, h.version.trans h'.version.symm,
    h.tags.trans h'.tags.symm, htitle.trans htitle'.symm,
    h.description.trans h'.description.symm, hdeprecated,
    h.deprecatedDescription.trans h'.deprecatedDescription.symm, h.roles.trans h'.roles.symm,
    hparams, hresponses.trans hresponses'.symm⟩

end Families

namespace TagLine

variable {lines : List Text}

theorem family?_eq_use_iff {line : Text} :
    family? line = some .use ↔ keyword line = Tag.use.keyword := by
  constructor
  · intro h
    obtain ⟨tag, ht, hf⟩ := Option.map_eq_some_iff.1 h
    rw [← Tag.keyword_eq_of_ofKeyword? ht]
    cases tag <;> cases hf
    rfl
  · intro h
    rw [family?, h, Tag.ofKeyword?_keyword]
    rfl

theorem linesOf_use_eq_nil_iff :
    linesOf .use lines = [] ↔ ∀ line ∈ lines, keyword line ≠ Tag.use.keyword := by
  simp only [linesOf, List.filter_eq_nil_iff, decide_eq_true_iff, family?_eq_use_iff, ne_eq]

theorem linesOf_known (family : Family) : linesOf family (known lines) = linesOf family lines := by
  rw [linesOf, known, List.filter_filter]
  refine List.filter_congr fun line _ => ?_
  by_cases h : family? line = some family <;> simp [h]

end TagLine

theorem readAs_or_first_fault (lines : List Text) :
    (∃ entries, ReadAs lines entries) ∨
      ∃ before line after entries fault, lines = before ++ line :: after ∧
        ReadAs before entries ∧ Entry.ofLine line = .error fault := by
  induction lines with
  | nil => exact Or.inl ⟨[], .nil⟩
  | cons line lines ih =>
    cases he : Entry.ofLine line with
    | error fault => exact Or.inr ⟨[], line, lines, [], fault, rfl, .nil, he⟩
    | ok entry =>
      rcases ih with ⟨entries, h⟩ | ⟨before, line', after, entries, fault, rfl, h, hf⟩
      · exact Or.inl ⟨entry :: entries, .cons he h⟩
      · exact Or.inr ⟨line :: before, line', after, entry :: entries, fault, rfl, .cons he h, hf⟩

theorem play_known (policy : Policy) (lines : List Text) (draft : Draft) (notices : List Notice) :
    play policy ((known lines).map .line) draft notices =
      play policy (lines.map .line) draft notices := by
  induction lines generalizing draft with
  | nil => rfl
  | cons line lines ih =>
    by_cases h : TagLine.family? line = none
    · rw [known, List.filter_cons_of_neg (by simp [h]), ← known, ih, List.map_cons]
      simp only [play, Entry.ofLine_of_unknown h, Draft.add]
    · have hsome : (TagLine.family? line).isSome = true := Option.isSome_iff_ne_none.2 h
      rw [known, List.filter_cons_of_pos (by simpa using hsome), ← known, List.map_cons,
        List.map_cons]
      cases he : Entry.ofLine line with
      | error fault => simp only [play, he]
      | ok entry => simp only [play, he, ih]

section Block

variable (table : Definitions) (policy : Policy) {body : Text}
  (hroute : (TagLine.ofBody body).head?.map keyword = some Tag.route.keyword)
  (huse : ∀ line ∈ TagLine.ofBody body, keyword line ≠ Tag.use.keyword)

include hroute huse

theorem readBlock_of_no_use :
    readBlock table policy body =
      let reading := play policy ((TagLine.ofBody body).map .line) {} []
      ⟨reading.notices, some <$> (reading.outcome >>= Draft.finish)⟩ := by
  have hno : ∀ line ∈ TagLine.ofBody body, TagLine.reference? line = none := by
    intro line hl
    simp [TagLine.reference?, huse line hl]
  rw [readBlock_of_route hroute, inline_of_no_reference hno]

theorem readBlock_of_readAs {entries : List Entry} (h : ReadAs (TagLine.ofBody body) entries) :
    ∃ r, (readBlock table policy body).outcome = .ok (some r) ∧
      r.AssembledFrom (TagLine.ofBody body) := by
  have hplay : play policy ((TagLine.ofBody body).map .line) {} [] =
      ⟨[], .ok (Draft.ofEntries entries)⟩ := by
    rw [← Draft.foldl_add, ← List.append_nil (List.map _ _), play_lines_append h]
    rfl
  obtain ⟨line, hl, hk⟩ := Option.map_eq_some_iff.1 hroute
  obtain ⟨entry, hm, he⟩ := h.ofLine_eq_ok (List.mem_of_head? hl)
  obtain ⟨route, -, rfl⟩ := Entry.ofLine_of_route hk he
  obtain ⟨r, hf⟩ := Draft.exists_finish_of_route hm
  refine ⟨r, ?_, Resource.assembledFrom_of_finish h hf⟩
  rw [readBlock_of_no_use table policy hroute huse, hplay]
  exact map_eq_ok_iff.2 ⟨r, hf, rfl⟩

theorem readBlock_of_first_fault {before after : List Text} {line : Text} {entries : List Entry}
    {fault : Fault} (hlines : TagLine.ofBody body = before ++ line :: after)
    (h : ReadAs before entries) (he : Entry.ofLine line = .error fault) :
    (readBlock table policy body).outcome = .error fault := by
  rw [readBlock_of_no_use table policy hroute huse, hlines, List.map_append, play_lines_append h]
  simp only [List.map_cons, play, he]
  rfl

theorem readBlock_eq_ok_iff {r : Resource} :
    (readBlock table policy body).outcome = .ok (some r) ↔
      (∀ line ∈ TagLine.ofBody body, ∃ entry, Entry.ofLine line = .ok entry) ∧
        r.AssembledFrom (TagLine.ofBody body) := by
  constructor
  · intro h
    rcases readAs_or_first_fault (TagLine.ofBody body) with
      ⟨entries, hr⟩ | ⟨before, line, after, entries, fault, hlines, hr, he⟩
    · obtain ⟨r', hr', ha⟩ := readBlock_of_readAs table policy hroute huse hr
      obtain rfl := Option.some.inj (Except.ok.inj (hr'.symm.trans h))
      exact ⟨fun line hl => (hr.ofLine_eq_ok hl).imp fun _ he => he.2, ha⟩
    · rw [readBlock_of_first_fault table policy hroute huse hlines hr he] at h
      cases h
  · rintro ⟨hall, ha⟩
    obtain ⟨entries, hr⟩ := exists_readAs hall
    obtain ⟨r', hr', ha'⟩ := readBlock_of_readAs table policy hroute huse hr
    rw [hr', ha'.unique ha]

theorem readBlock_eq_error_iff {fault : Fault} :
    (readBlock table policy body).outcome = .error fault ↔
      ∃ before line after, TagLine.ofBody body = before ++ line :: after ∧
        (∀ l ∈ before, ∃ entry, Entry.ofLine l = .ok entry) ∧
        Entry.ofLine line = .error fault := by
  constructor
  · intro h
    rcases readAs_or_first_fault (TagLine.ofBody body) with
      ⟨entries, hr⟩ | ⟨before, line, after, entries, fault', hlines, hr, he⟩
    · obtain ⟨r, hr', -⟩ := readBlock_of_readAs table policy hroute huse hr
      cases hr'.symm.trans h
    · have hfault := readBlock_of_first_fault table policy hroute huse hlines hr he
      obtain rfl := Except.error.inj (hfault.symm.trans h)
      exact ⟨before, line, after, hlines,
        fun l hl => (hr.ofLine_eq_ok hl).imp fun _ he => he.2, he⟩
  · rintro ⟨before, line, after, hlines, hbefore, he⟩
    obtain ⟨entries, hr⟩ := exists_readAs hbefore
    exact readBlock_of_first_fault table policy hroute huse hlines hr he

theorem exists_fault_iff_not_resource :
    (∃ fault, (readBlock table policy body).outcome = .error fault) ↔
      ¬∃ r, (readBlock table policy body).outcome = .ok (some r) := by
  constructor
  · rintro ⟨fault, hf⟩ ⟨r, hr⟩
    cases hf.symm.trans hr
  · intro h
    rcases readAs_or_first_fault (TagLine.ofBody body) with
      ⟨entries, hr⟩ | ⟨before, line, after, entries, fault, hlines, hr, he⟩
    · obtain ⟨r, hr', -⟩ := readBlock_of_readAs table policy hroute huse hr
      exact absurd ⟨r, hr'⟩ h
    · exact ⟨fault, readBlock_of_first_fault table policy hroute huse hlines hr he⟩

end Block

section Reordering

variable {lines lines' : List Text}

/-- Whether all lines can be read does not depend on how the families are mixed. -/
theorem forall_ofLine_of_linesOf
    (hlines : ∀ family, linesOf family lines' = linesOf family lines)
    (h : ∀ line ∈ lines, ∃ entry, Entry.ofLine line = .ok entry) :
    ∀ line ∈ lines', ∃ entry, Entry.ofLine line = .ok entry := by
  intro line hl
  cases hf : TagLine.family? line with
  | none => exact ⟨.other, Entry.ofLine_of_unknown hf⟩
  | some family =>
    have hm : line ∈ linesOf family lines' := List.mem_filter.2 ⟨hl, by simpa using hf⟩
    rw [hlines] at hm
    exact h line (List.mem_filter.1 hm).1

variable {body body' : Text}
  (hroute : (TagLine.ofBody body).head?.map keyword = some Tag.route.keyword)
  (huse : ∀ line ∈ TagLine.ofBody body, keyword line ≠ Tag.use.keyword)
  (hhead : (TagLine.ofBody body').head? = (TagLine.ofBody body).head?)

include hroute huse hhead

theorem route_and_no_use_of_linesOf
    (hlines : ∀ family,
      linesOf family (TagLine.ofBody body') = linesOf family (TagLine.ofBody body)) :
    (TagLine.ofBody body').head?.map keyword = some Tag.route.keyword ∧
      ∀ line ∈ TagLine.ofBody body', keyword line ≠ Tag.use.keyword := by
  rw [hhead, ← linesOf_use_eq_nil_iff, hlines, linesOf_use_eq_nil_iff]
  exact ⟨hroute, huse⟩

theorem readBlock_eq_ok_iff_of_linesOf (table : Definitions) (policy : Policy)
    (hlines : ∀ family,
      linesOf family (TagLine.ofBody body') = linesOf family (TagLine.ofBody body))
    (r : Resource) :
    (readBlock table policy body').outcome = .ok (some r) ↔
      (readBlock table policy body).outcome = .ok (some r) := by
  obtain ⟨hroute', huse'⟩ := route_and_no_use_of_linesOf hroute huse hhead hlines
  rw [readBlock_eq_ok_iff table policy hroute' huse', readBlock_eq_ok_iff table policy hroute huse]
  constructor
  · rintro ⟨hall, ha⟩
    exact ⟨forall_ofLine_of_linesOf (fun family => (hlines family).symm) hall, ha.congr hlines⟩
  · rintro ⟨hall, ha⟩
    exact ⟨forall_ofLine_of_linesOf hlines hall, ha.congr fun family => (hlines family).symm⟩

theorem exists_fault_iff_of_linesOf (table : Definitions) (policy : Policy)
    (hlines : ∀ family,
      linesOf family (TagLine.ofBody body') = linesOf family (TagLine.ofBody body)) :
    (∃ fault, (readBlock table policy body').outcome = .error fault) ↔
      ∃ fault, (readBlock table policy body).outcome = .error fault := by
  obtain ⟨hroute', huse'⟩ := route_and_no_use_of_linesOf hroute huse hhead hlines
  rw [exists_fault_iff_not_resource table policy hroute' huse',
    exists_fault_iff_not_resource table policy hroute huse]
  simp only [readBlock_eq_ok_iff_of_linesOf hroute huse hhead table policy hlines]

theorem readBlock_eq_of_known (table : Definitions) (policy : Policy)
    (hknown : known (TagLine.ofBody body') = known (TagLine.ofBody body)) :
    readBlock table policy body' = readBlock table policy body := by
  have hlines : ∀ family,
      linesOf family (TagLine.ofBody body') = linesOf family (TagLine.ofBody body) := by
    intro family
    rw [← linesOf_known, hknown, linesOf_known]
  obtain ⟨hroute', huse'⟩ := route_and_no_use_of_linesOf hroute huse hhead hlines
  rw [readBlock_of_no_use table policy hroute' huse', readBlock_of_no_use table policy hroute huse,
    ← play_known, hknown, play_known]

end Reordering

/-- The families of tags do not touch each other. A block without references is a resource just if
each of its lines can be read by itself, and its fault is otherwise that of the first line that
cannot. Each part of the resource comes from the lines of one family. So it does not matter how the
families are mixed after the first line, and lines with an unknown tag do not matter at all. -/
theorem readBlock_tag_families (table : Definitions) (policy : Policy) (body : Text)
    (hroute : (TagLine.ofBody body).head?.map keyword = some Tag.route.keyword)
    (huse : ∀ line ∈ TagLine.ofBody body, keyword line ≠ Tag.use.keyword) :
    let lines := TagLine.ofBody body
    let outcome := (readBlock table policy body).outcome
    ((∃ r, outcome = .ok (some r)) ↔ ∀ line ∈ lines, ∃ entry, Entry.ofLine line = .ok entry) ∧
    (∀ fault, outcome = .error fault ↔
      ∃ before line after, lines = before ++ line :: after ∧
        (∀ l ∈ before, ∃ entry, Entry.ofLine l = .ok entry) ∧ Entry.ofLine line = .error fault) ∧
    (∀ r, outcome = .ok (some r) → r.AssembledFrom lines) ∧
    (∀ body', (TagLine.ofBody body').head? = lines.head? →
      (∀ family, linesOf family (TagLine.ofBody body') = linesOf family lines) →
      (∀ r, (readBlock table policy body').outcome = .ok (some r) ↔ outcome = .ok (some r)) ∧
        ((∃ fault, (readBlock table policy body').outcome = .error fault) ↔
          ∃ fault, outcome = .error fault)) ∧
    (∀ body', (TagLine.ofBody body').head? = lines.head? →
      known (TagLine.ofBody body') = known lines →
      readBlock table policy body' = readBlock table policy body) := by
  intro lines outcome
  have hok := fun r => readBlock_eq_ok_iff table policy hroute huse (r := r)
  refine ⟨⟨?_, ?_⟩, ?_, ?_, ?_, ?_⟩
  · rintro ⟨r, h⟩
    exact ((hok r).1 h).1
  · intro hall
    obtain ⟨entries, hr⟩ := exists_readAs hall
    obtain ⟨r, h, -⟩ := readBlock_of_readAs table policy hroute huse hr
    exact ⟨r, h⟩
  · intro fault
    exact readBlock_eq_error_iff table policy hroute huse
  · intro r h
    exact ((hok r).1 h).2
  · intro body' hhead hlines
    exact ⟨readBlock_eq_ok_iff_of_linesOf hroute huse hhead table policy hlines,
      exists_fault_iff_of_linesOf hroute huse hhead table policy hlines⟩
  · intro body' hhead hknown
    exact readBlock_eq_of_known hroute huse hhead table policy hknown

/-- The group and the version change places, and a line with an unknown tag comes in. Of two faults
the first one is told. -/
theorem readBlock_tag_families_of_mixed :
    let route := "@api \x7bGET\x7d /x".toList
    let group := "@apiGroup g".toList
    let version := "@apiVersion 1".toList
    let note := "@apiNote".toList
    let body := Text.join ['\n'] [route, group, version]
    let mixed := Text.join ['\n'] [route, version, group]
    let noted := Text.join ['\n'] [route, note, group, version]
    let faulty := Text.join ['\n'] [route, Tag.error.keyword, Tag.success.keyword]
    (∃ r, (readBlock .empty .strict body).outcome = .ok (some r) ∧
      r.AssembledFrom [route, group, version] ∧
      (readBlock .empty .strict mixed).outcome = .ok (some r) ∧
      (readBlock .empty .strict noted).outcome = .ok (some r)) ∧
    (readBlock .empty .strict faulty).outcome = .error (.missing Tag.error.keyword .name) := by
  intro route group version note body mixed noted faulty
  have hbody : TagLine.ofBody body = [route, group, version] := by decide +kernel
  have hmixed : TagLine.ofBody mixed = [route, version, group] := by decide +kernel
  have hnoted : TagLine.ofBody noted = [route, note, group, version] := by decide +kernel
  have hfaulty : TagLine.ofBody faulty = [route, Tag.error.keyword, Tag.success.keyword] := by
    decide +kernel
  have hroute : keyword route = Tag.route.keyword := by decide +kernel
  have hread : ∀ line ∈ [route, group, version], (Entry.ofLine line).isOk = true := by
    decide +kernel
  have hfamily : TagLine.family? route = some .route ∧ TagLine.family? group = some .group ∧
      TagLine.family? version = some .version ∧ TagLine.family? note = none := by
    decide +kernel
  constructor
  · obtain ⟨hresource, -, hassembled, hreorder, hunknown⟩ :=
      readBlock_tag_families .empty .strict body (by simp [hbody, hroute])
        (by rw [hbody]; decide +kernel)
    rw [hbody] at hresource hassembled hreorder hunknown
    obtain ⟨r, hr⟩ := hresource.2 fun line hl => exists_eq_ok_of_isOk (hread line hl)
    have hsame := hreorder mixed (by simp [hmixed]) fun family => by
      rw [hmixed]
      cases family <;> simp [linesOf, hfamily]
    have hnote := hunknown noted (by simp [hnoted]) (by simp [hnoted, known, hfamily])
    refine ⟨r, hr, hassembled r hr, (hsame.1 r).2 hr, ?_⟩
    rw [hnote, hr]
  · obtain ⟨-, hfault, -⟩ :=
      readBlock_tag_families .empty .strict faulty (by simp [hfaulty, hroute])
        (by rw [hfaulty]; decide +kernel)
    refine (hfault _).2 ⟨[route], _, _, hfaulty, ?_, by decide +kernel⟩
    intro line hl
    rw [List.mem_singleton.1 hl]
    exact exists_eq_ok_of_isOk (hread route List.mem_cons_self)

end ApiNotes
