import Mathlib.Data.Finset.Card
import Mathlib.Data.List.DropRight
import ApiNotes.Proofs.Keyed

/-! # Collections after any run of calls

A collection is known from the resources that were inserted into it, in order. Editions are known
from their history: each version holds what was inserted since its collection was last taken out,
and the versions stand in the order of the first of these insertions.
-/

namespace ApiNotes

namespace Resources

theorem index_eq_some_iff (rs : Resources) {key : Text} {slot : Nat} :
    rs.index key = some slot ↔ ∃ h : slot < rs.entries.length, rs.entries[slot].key = key := by
  rw [rs.indexed, Option.map_eq_some_iff]
  constructor
  · rintro ⟨r, hr, rfl⟩
    obtain ⟨h, rfl⟩ := List.getElem?_eq_some_iff.1 hr
    exact ⟨h, rfl⟩
  · rintro ⟨h, rfl⟩
    exact ⟨_, List.getElem?_eq_getElem h, rfl⟩

theorem size_ofList (rs : List Resource) :
    (ofList rs).size = (rs.map Resource.key).toFinset.card := by
  have hkeys :
      (rs.map Resource.key).toFinset = ((ofList rs).entries.map Resource.key).toFinset := by
    ext key
    rw [map_key_ofList, List.mem_toFinset, List.mem_toFinset, List.mem_eraseDups]
  rw [hkeys, List.toFinset_card_of_nodup (ofList rs).distinct, List.length_map, size]

/-- After any run of insertions the index and the entries are in step, the entries are the last
resource of each key in the order in which the keys were first seen, and the next insertion answers
with the resource that it replaces. -/
theorem foldl_insert_lastWrite (rs : List Resource) :
    let c := rs.foldl insert empty
    ofList rs = c ∧
      (∀ key slot, c.index key = some slot ↔
        ∃ h : slot < c.entries.length, c.entries[slot].key = key) ∧
      (c.entries.map Resource.key).Nodup ∧
      c.entries.map Resource.key = (rs.map Resource.key).eraseDups ∧
      (∀ r ∈ c.entries, (rs.filter fun r' => r'.key = r.key).getLast? = some r) ∧
      (∀ key, c.get? key = (rs.filter fun r => r.key = key).getLast?) ∧
      (∀ r, (c.exchange r).1 = (rs.filter fun r' => r'.key = r.key).getLast?) ∧
      c.size = (rs.map Resource.key).toFinset.card := by
  refine ⟨rfl, fun key slot => index_eq_some_iff _, distinct _, map_key_ofList rs, ?_,
    get?_ofList rs, ?_, size_ofList rs⟩
  · intro r hr
    exact getLast?_of_mem_ofList hr
  · intro r
    rw [exchange_fst]
    exact get?_ofList rs r.key

theorem ofList_append_singleton (rs : List Resource) (r : Resource) :
    ofList (rs ++ [r]) = (ofList rs).insert r := by
  rw [ofList, List.foldl_concat, ← ofList]

theorem mem_of_mem_ofList {rs : List Resource} {r : Resource} (h : r ∈ (ofList rs).entries) :
    r ∈ rs :=
  (List.mem_filter.1 (List.mem_of_getLast? (getLast?_of_mem_ofList h))).1

theorem exists_mem_ofList {rs : List Resource} {r : Resource} (h : r ∈ rs) :
    ∃ r' ∈ (ofList rs).entries, r'.key = r.key := by
  rw [← List.mem_map, map_key_ofList, List.mem_eraseDups]
  exact List.mem_map_of_mem h

theorem entries_ofList_ne_nil {rs : List Resource} (h : rs ≠ []) : (ofList rs).entries ≠ [] := by
  obtain ⟨r, hr⟩ := List.exists_mem_of_ne_nil rs h
  obtain ⟨r', hr', -⟩ := exists_mem_ofList hr
  exact List.ne_nil_of_mem hr'

end Resources

namespace Editions

inductive Event where
  | inserted (r : Resource) (replaced : Option Resource)
  | removed (version : Option Text) (taken : Option Resources)

inductive Call where
  | insert (r : Resource)
  | remove (version : Option Text)

/-- What has happened to editions that were empty at first, and what they are now. -/
structure History where
  events : List Event
  editions : Editions

namespace Event

def takesOut (version : Option Text) : Event → Bool
  | .removed v (some _) => v = version
  | _ => false

theorem takesOut_removed_of_ne {version v : Option Text} (h : v ≠ version)
    (taken : Option Resources) : takesOut v (.removed version taken) = false := by
  cases taken <;> simp [takesOut, Ne.symm h]

def filed? (version : Option Text) : Event → Option Resource
  | .inserted r _ => if r.version = version then some r else none
  | .removed _ _ => none

end Event

/-- The events since the collection of a version was last taken out. -/
def since (version : Option Text) (events : List Event) : List Event :=
  events.rtakeWhile fun event => !event.takesOut version

/-- The resources that were filed under a version since then. -/
def live (version : Option Text) (events : List Event) : List Resource :=
  (since version events).filterMap (Event.filed? version)

/-- The number of events before the first that filed one of these. -/
def birth (version : Option Text) (events : List Event) : Nat :=
  events.length - (since version events).length +
    (since version events).findIdx fun event => (event.filed? version).isSome

namespace History

def perform (history : History) : Call → History
  | .insert r =>
    ⟨history.events ++ [.inserted r (history.editions.exchange r).1],
      (history.editions.exchange r).2⟩
  | .remove version =>
    ⟨history.events ++ [.removed version (history.editions.remove version).1],
      (history.editions.remove version).2⟩

def ofCalls (calls : List Call) : History := calls.foldl perform ⟨[], empty⟩

end History

section Since

variable {version : Option Text} {events : List Event} {event : Event}

theorem length_since_le (version : Option Text) (events : List Event) :
    (since version events).length ≤ events.length :=
  (List.rtakeWhile_suffix _ events).length_le

theorem since_append_of_not_takesOut (h : event.takesOut version = false) :
    since version (events ++ [event]) = since version events ++ [event] := by
  simp [since, h]

theorem live_append_of_takesOut (h : event.takesOut version = true) :
    live version (events ++ [event]) = [] := by
  simp [live, since, h]

theorem live_append_of_not_takesOut (h : event.takesOut version = false) :
    live version (events ++ [event]) = live version events ++ (event.filed? version).toList := by
  rw [live, since_append_of_not_takesOut h, List.filterMap_append, ← live]
  cases hf : event.filed? version <;> simp [hf]

theorem version_of_mem_live {r : Resource} (h : r ∈ live version events) : r.version = version := by
  obtain ⟨event, -, hf⟩ := List.mem_filterMap.1 h
  cases event with
  | inserted r' replaced =>
    obtain ⟨hv, rfl⟩ : r'.version = version ∧ r' = r := by simpa [Event.filed?] using hf
    exact hv
  | removed v taken => cases hf

theorem live_ne_nil_iff : live version events ≠ [] ↔
    ∃ event ∈ since version events, (event.filed? version).isSome = true := by
  simp [live, List.filterMap_eq_nil_iff, Option.isSome_iff_ne_none]

theorem birth_lt_length (h : live version events ≠ []) : birth version events < events.length := by
  have hfound := List.findIdx_lt_length_of_exists (live_ne_nil_iff.1 h)
  have hle := length_since_le version events
  unfold birth
  omega

theorem birth_append (h : live version events ≠ []) (hout : event.takesOut version = false) :
    birth version (events ++ [event]) = birth version events := by
  have hfound := List.findIdx_lt_length_of_exists (live_ne_nil_iff.1 h)
  have hle := length_since_le version events
  rw [birth, since_append_of_not_takesOut hout, List.findIdx_append, if_pos hfound, birth]
  simp only [List.length_append]
  omega

theorem birth_append_of_live_eq_nil (h : live version events = [])
    (hout : event.takesOut version = false) (hf : (event.filed? version).isSome = true) :
    birth version (events ++ [event]) = events.length := by
  have hnone : ¬ (since version events).findIdx (fun event => (event.filed? version).isSome) <
      (since version events).length := by
    rw [List.findIdx_lt_length]
    exact fun hex => live_ne_nil_iff.2 hex h
  have hle := length_since_le version events
  rw [birth, since_append_of_not_takesOut hout, List.findIdx_append, if_neg hnone]
  simp only [List.length_append, List.findIdx_cons, hf, cond_true]
  omega

end Since

def collect (rs : List Resource) : Option Resources := if rs = [] then none else some (.ofList rs)

theorem getD_collect (rs : List Resource) : (collect rs).getD .empty = .ofList rs := by
  unfold collect
  split
  · next h =>
    subst h
    rfl
  · rfl

theorem collect_append_singleton (rs : List Resource) (r : Resource) :
    collect (rs ++ [r]) = some (((collect rs).getD .empty).insert r) := by
  have hne : rs ++ [r] ≠ [] := List.append_ne_nil_of_right_ne_nil rs (List.cons_ne_nil r [])
  rw [getD_collect, collect, if_neg hne, Resources.ofList_append_singleton]

theorem collect_eq_none_iff {rs : List Resource} : collect rs = none ↔ rs = [] := by
  simp [collect]

section Versions

variable (es : Editions) (version : Option Text)

theorem get?_eq_none_iff : es.get? version = none ↔ version ∉ es.versions := by
  simp [get?, Keyed.get?, versions]

theorem exchange_fst (r : Resource) :
    (es.exchange r).1 = ((es.get? r.version).getD .empty).get? r.key :=
  Resources.exchange_fst _ r

theorem versions_insert (r : Resource) :
    (es.insert r).versions =
      if r.version ∈ es.versions then es.versions else es.versions ++ [r.version] := by
  rw [versions, entries_insert]
  split
  · next h => exact Keyed.map_key_put_of_mem h
  · next h =>
    rw [Keyed.put_of_not_mem h, List.map_append]
    rfl

theorem versions_remove : (es.remove version).2.versions = es.versions.filter (· ≠ version) := by
  rw [versions, versions, List.filter_map]
  rfl

theorem get?_remove (v : Option Text) :
    (es.remove version).2.get? v = if v = version then none else es.get? v := by
  rw [get?, remove, Keyed.get?_remove]
  split <;> rfl

end Versions

namespace History

/-- Each version holds what was filed under it since it was last taken out, and the versions stand
in the order in which they began. -/
structure Kept (history : History) : Prop where
  get? : ∀ version, history.editions.get? version = collect (live version history.events)
  ordered : history.editions.versions.Pairwise fun v w =>
    birth v history.events < birth w history.events

variable {history : History}

theorem Kept.mem_versions_iff (h : history.Kept) {version : Option Text} :
    version ∈ history.editions.versions ↔ live version history.events ≠ [] := by
  rw [← not_iff_not, not_not, ← get?_eq_none_iff, h.get?, collect_eq_none_iff]

theorem Kept.insert (h : history.Kept) (r : Resource) : (history.perform (.insert r)).Kept := by
  have hbirth : ∀ v ∈ history.editions.versions,
      birth v (history.perform (.insert r)).events = birth v history.events :=
    fun v hv => birth_append (h.mem_versions_iff.1 hv) rfl
  constructor
  · intro v
    refine (get?_insert history.editions r v).trans ?_
    rw [perform, live_append_of_not_takesOut rfl, h.get?]
    by_cases hv : r.version = v
    · simp [Event.filed?, hv, collect_append_singleton]
    · simp [Event.filed?, hv]
  · change (history.editions.insert r).versions.Pairwise _
    rw [versions_insert]
    have hold : history.editions.versions.Pairwise fun v w =>
        birth v (history.perform (.insert r)).events <
          birth w (history.perform (.insert r)).events := by
      refine h.ordered.imp_of_mem fun hv hw hlt => ?_
      rwa [hbirth _ hv, hbirth _ hw]
    split
    · exact hold
    · next hm =>
      rw [List.pairwise_append]
      refine ⟨hold, List.pairwise_singleton _ _, fun v hv w hw => ?_⟩
      obtain rfl := List.mem_singleton.1 hw
      have hnew : live r.version history.events = [] := by
        rwa [h.mem_versions_iff, not_not] at hm
      have hr : birth r.version (history.perform (.insert r)).events = history.events.length :=
        birth_append_of_live_eq_nil hnew rfl (by simp [Event.filed?])
      rw [hbirth v hv, hr]
      exact birth_lt_length (h.mem_versions_iff.1 hv)

/-- A removal empties its version, also when there is nothing to take out. -/
theorem Kept.live_remove (h : history.Kept) (version v : Option Text) :
    live v (history.perform (.remove version)).events =
      if v = version then [] else live v history.events := by
  rw [perform, Editions.remove]
  split
  · next hv =>
    subst hv
    cases hg : history.editions.get? v with
    | none =>
      rw [h.get?, collect_eq_none_iff] at hg
      rw [live_append_of_not_takesOut rfl, hg]
      rfl
    | some rs => exact live_append_of_takesOut (by simp [Event.takesOut])
  · next hv =>
    rw [live_append_of_not_takesOut (Event.takesOut_removed_of_ne hv _)]
    simp [Event.filed?]

theorem Kept.remove (h : history.Kept) (version : Option Text) :
    (history.perform (.remove version)).Kept := by
  constructor
  · intro v
    refine (get?_remove history.editions version v).trans ?_
    rw [h.live_remove, h.get?]
    split <;> rfl
  · change (history.editions.remove version).2.versions.Pairwise _
    rw [versions_remove]
    have hbirth : ∀ v ∈ history.editions.versions.filter (· ≠ version),
        birth v (history.perform (.remove version)).events = birth v history.events := by
      intro v hv
      obtain ⟨hm, hne⟩ := List.mem_filter.1 hv
      exact birth_append (h.mem_versions_iff.1 hm)
        (Event.takesOut_removed_of_ne (of_decide_eq_true hne) _)
    refine (h.ordered.filter _).imp_of_mem fun hv hw hlt => ?_
    rwa [hbirth _ hv, hbirth _ hw]

theorem Kept.of_mem_entries (h : history.Kept) {edition : Edition}
    (he : edition ∈ history.editions.entries) : edition.resources.entries ≠ [] ∧
      ∀ r ∈ edition.resources.entries, r.version = edition.version := by
  have hg := get?_of_mem he
  rw [h.get?, collect] at hg
  split at hg
  · cases hg
  · next hne =>
    rw [← Option.some.inj hg]
    refine ⟨Resources.entries_ofList_ne_nil hne, fun r hr => ?_⟩
    exact version_of_mem_live (Resources.mem_of_mem_ofList hr)

theorem kept_ofCalls (calls : List Call) : (ofCalls calls).Kept := by
  induction calls using List.reverseRecOn with
  | nil => exact ⟨fun version => rfl, .nil⟩
  | append_singleton calls call ih =>
    rw [ofCalls, List.foldl_concat, ← ofCalls]
    cases call with
    | insert r => exact ih.insert r
    | remove version => exact ih.remove version

end History

/-- After any run of insertions and removals each version holds the collection of what was filed
under it since it was last taken out, the versions stand in the order in which they began, and the
next call answers from the collection of its own version and leaves the others as they are. -/
theorem ofCalls_firstSeen (calls : List Call) :
    let events := (History.ofCalls calls).events
    let es := (History.ofCalls calls).editions
    es.versions.Nodup ∧
      (∀ edition ∈ es.entries, edition.resources.entries ≠ [] ∧
        ∀ r ∈ edition.resources.entries, r.version = edition.version) ∧
      (∀ version, es.get? version =
        if live version events = [] then none else some (.ofList (live version events))) ∧
      (∀ version, (es.remove version).1 = es.get? version ∧
        (es.remove version).2.get? version = none ∧
        (∀ v, v ≠ version → (es.remove version).2.get? v = es.get? v) ∧
        (es.remove version).2.versions = es.versions.filter (· ≠ version)) ∧
      (∀ version, version ∈ es.versions ↔ live version events ≠ []) ∧
      es.versions.Pairwise (fun v w => birth v events < birth w events) ∧
      ∀ r, (es.exchange r).1 =
          ((live r.version events).filter fun r' => r'.key = r.key).getLast? ∧
        ∀ v, v ≠ r.version → (es.exchange r).2.get? v = es.get? v := by
  intro events es
  have hkept : (History.ofCalls calls).Kept := History.kept_ofCalls calls
  refine ⟨es.distinct, fun edition he => hkept.of_mem_entries he, hkept.get?, ?_,
    fun version => hkept.mem_versions_iff, hkept.ordered, ?_⟩
  · intro version
    refine ⟨rfl, ?_, fun v hv => ?_, versions_remove es version⟩
    · rw [get?_remove, if_pos rfl]
    · rw [get?_remove, if_neg hv]
  · intro r
    constructor
    · rw [exchange_fst, hkept.get?, getD_collect]
      exact Resources.get?_ofList _ r.key
    · intro v hv
      exact (get?_insert es r v).trans (if_neg (Ne.symm hv))

end Editions

end ApiNotes
