import Mathlib.Data.List.Forall2
import Mathlib.Data.List.Induction
import ApiNotes.Proofs.Inlining

/-! # Drafts as lists of entries

A reading that ends has read every line that inlining keeps, and its draft is known from the
entries of those lines alone: each part of it collects the entries of one kind.
-/

namespace ApiNotes

namespace Entry

variable {entry : Entry}

def route? : Entry → Option Route
  | .route r => some r
  | _ => none

def version? : Entry → Option (Option Text)
  | .version v => some v
  | _ => none

def group? : Entry → Option (Option Text)
  | .group g => some g
  | _ => none

def deprecated? : Entry → Option (Option Text)
  | .deprecated d => some d
  | _ => none

def roles? : Entry → Option (List Text)
  | .roles rs => some rs
  | _ => none

def description? : Entry → Option Text
  | .description d => some d
  | _ => none

def param? : Entry → Option Param
  | .param p => some p
  | _ => none

def success? : Entry → Option BodyField
  | .success f => some f
  | _ => none

def error? : Entry → Option Response
  | .error r => some r
  | _ => none

theorem route?_eq_some_iff {r : Route} : entry.route? = some r ↔ entry = .route r := by
  cases entry <;> simp [route?]

theorem version?_eq_some_iff {v : Option Text} : entry.version? = some v ↔ entry = .version v := by
  cases entry <;> simp [version?]

theorem group?_eq_some_iff {g : Option Text} : entry.group? = some g ↔ entry = .group g := by
  cases entry <;> simp [group?]

theorem deprecated?_eq_some_iff {d : Option Text} :
    entry.deprecated? = some d ↔ entry = .deprecated d := by
  cases entry <;> simp [deprecated?]

theorem roles?_eq_some_iff {rs : List Text} : entry.roles? = some rs ↔ entry = .roles rs := by
  cases entry <;> simp [roles?]

theorem description?_eq_some_iff {d : Text} :
    entry.description? = some d ↔ entry = .description d := by
  cases entry <;> simp [description?]

theorem param?_eq_some_iff {p : Param} : entry.param? = some p ↔ entry = .param p := by
  cases entry <;> simp [param?]

theorem success?_eq_some_iff {f : BodyField} : entry.success? = some f ↔ entry = .success f := by
  cases entry <;> simp [success?]

theorem error?_eq_some_iff {r : Response} : entry.error? = some r ↔ entry = .error r := by
  cases entry <;> simp [error?]

end Entry

namespace Draft

def ofEntries (entries : List Entry) : Draft where
  route := (entries.filterMap Entry.route?).getLast?
  version := (entries.filterMap Entry.version?).getLast?.join
  group := (entries.filterMap Entry.group?).getLast?.join
  deprecation := (entries.filterMap Entry.deprecated?).getLast?
  roles := (entries.filterMap Entry.roles?).flatten
  description := (entries.filterMap Entry.description?).foldl describe none
  params := entries.filterMap Entry.param?
  successes := entries.filterMap Entry.success?
  errors := entries.filterMap Entry.error?

theorem foldl_add (entries : List Entry) : entries.foldl add {} = ofEntries entries := by
  induction entries using List.reverseRecOn with
  | nil => rfl
  | append_singleton entries entry ih =>
    rw [List.foldl_concat, ih]
    cases entry <;>
      simp [add, ofEntries, List.filterMap_append, List.filterMap_cons, Entry.route?,
        Entry.version?, Entry.group?, Entry.deprecated?, Entry.roles?, Entry.description?,
        Entry.param?, Entry.success?, Entry.error?]

end Draft

/-- Each line is read as the entry in its place. -/
def ReadAs (lines : List Text) (entries : List Entry) : Prop :=
  List.Forall₂ (fun line entry => Entry.ofLine line = .ok entry) lines entries

section Play

variable {policy : Policy} {items : List Item} {lines : List Text} {entries : List Entry}
  {draft draft' : Draft} {notices : List Notice}

theorem play_eq_ok (h : (play policy items draft notices).outcome = .ok draft') :
    ∃ entries, ReadAs (Item.lines items) entries ∧ draft' = entries.foldl Draft.add draft := by
  induction items generalizing draft notices with
  | nil => exact ⟨[], .nil, (Except.ok.inj h).symm⟩
  | cons item items ih =>
    cases item with
    | line l =>
      cases he : Entry.ofLine l with
      | error fault => simp [play, he] at h
      | ok entry =>
        simp only [play, he] at h
        obtain ⟨entries, hr, hd⟩ := ih h
        exact ⟨entry :: entries, .cons he hr, hd⟩
    | notice n =>
      cases policy with
      | strict => cases h
      | lenient => exact ih h

theorem play_lines_append (h : ReadAs lines entries) (items : List Item) :
    play policy (lines.map .line ++ items) draft notices =
      play policy items (entries.foldl Draft.add draft) notices := by
  induction h generalizing draft with
  | nil => rfl
  | cons he _ ih => simp only [List.map_cons, List.cons_append, play, he, ih, List.foldl_cons]

theorem exists_readAs (h : ∀ line ∈ lines, ∃ entry, Entry.ofLine line = .ok entry) :
    ∃ entries, ReadAs lines entries := by
  induction lines with
  | nil => exact ⟨[], .nil⟩
  | cons line lines ih =>
    rw [List.forall_mem_cons] at h
    obtain ⟨entry, he⟩ := h.1
    obtain ⟨entries, hr⟩ := ih h.2
    exact ⟨entry :: entries, .cons he hr⟩

theorem ReadAs.ofLine_eq_ok (h : ReadAs lines entries) {line : Text} (hl : line ∈ lines) :
    ∃ entry ∈ entries, Entry.ofLine line = .ok entry := by
  induction h with
  | nil => cases hl
  | cons he _ ih =>
    rcases List.mem_cons.1 hl with rfl | hl
    · exact ⟨_, List.mem_cons_self, he⟩
    · obtain ⟨entry, hm, he⟩ := ih hl
      exact ⟨entry, List.mem_cons_of_mem _ hm, he⟩

theorem ReadAs.exists_line (h : ReadAs lines entries) {entry : Entry} (he : entry ∈ entries) :
    ∃ line ∈ lines, Entry.ofLine line = .ok entry := by
  induction h with
  | nil => cases he
  | cons hl _ ih =>
    rcases List.mem_cons.1 he with rfl | he
    · exact ⟨_, List.mem_cons_self, hl⟩
    · obtain ⟨line, hm, hl⟩ := ih he
      exact ⟨line, List.mem_cons_of_mem _ hm, hl⟩

end Play

theorem Entry.ofLine_of_route {line : Text} {entry : Entry}
    (hk : TagLine.keyword line = Tag.route.keyword) (h : ofLine line = .ok entry) :
    ∃ route, readRoute (TagLine.content line) = .ok route ∧ entry = .route route := by
  rw [ofLine, hk, Tag.ofKeyword?_keyword] at h
  obtain ⟨route, hr, rfl⟩ := map_eq_ok_iff.1 h
  exact ⟨route, hr, rfl⟩

namespace Draft

variable {entries : List Entry}

theorem exists_finish_of_route {route : Route} (h : .route route ∈ entries) :
    ∃ resource, (ofEntries entries).finish = .ok resource := by
  have hne : entries.filterMap Entry.route? ≠ [] :=
    List.ne_nil_of_mem (List.mem_filterMap.2 ⟨_, h, rfl⟩)
  have hr : (ofEntries entries).route = some ((entries.filterMap Entry.route?).getLast hne) :=
    List.getLast?_eq_some_getLast hne
  unfold finish
  rw [hr]
  exact ⟨_, rfl⟩

end Draft

theorem exists_finish_of_play {table : Definitions} {policy : Policy} {lines : List Text}
    {draft : Draft} (hroute : lines.head?.map TagLine.keyword = some Tag.route.keyword)
    (h : (play policy (inline table [] lines) {} []).outcome = .ok draft) :
    ∃ entries, ReadAs (Item.lines (inline table [] lines)) entries ∧
      draft = Draft.ofEntries entries ∧ ∃ resource, draft.finish = .ok resource := by
  obtain ⟨entries, hr, rfl⟩ := play_eq_ok h
  refine ⟨entries, hr, Draft.foldl_add entries, ?_⟩
  obtain ⟨line, hl, hk⟩ := Option.map_eq_some_iff.1 hroute
  rw [← head?_lines_inline (by decide) hroute] at hl
  obtain ⟨entry, hm, he⟩ := hr.ofLine_eq_ok (List.mem_of_head? hl)
  obtain ⟨route, -, rfl⟩ := Entry.ofLine_of_route hk he
  rw [Draft.foldl_add]
  exact Draft.exists_finish_of_route hm

/-- A block that is read as a resource: the entries of the lines that inlining keeps make it. -/
theorem exists_readAs_of_readBlock {table : Definitions} {policy : Policy} {body : Text}
    {r : Resource} (h : (readBlock table policy body).outcome = .ok (some r)) :
    ∃ entries, ReadAs (Item.lines (inline table [] (TagLine.ofBody body))) entries ∧
      (Draft.ofEntries entries).finish = .ok r := by
  by_cases hroute : (TagLine.ofBody body).head?.map TagLine.keyword = some Tag.route.keyword
  · rw [readBlock_of_route hroute] at h
    obtain ⟨r', hb, hr⟩ := map_eq_ok_iff.1 h
    obtain rfl := Option.some.inj hr
    obtain ⟨draft, hp, hf⟩ := bind_eq_ok_iff.1 hb
    obtain ⟨entries, hread, rfl, -⟩ := exists_finish_of_play hroute hp
    exact ⟨entries, hread, hf⟩
  · simp [readBlock, hroute] at h

end ApiNotes
