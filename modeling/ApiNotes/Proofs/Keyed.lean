import Mathlib.Data.List.Basic
import Mathlib.Data.List.Induction
import ApiNotes.Resource.Collection

/-! # Keyed lists by first sighting and last write

A keyed list is known by its keys and by what each key holds. After any run of puts the keys stand
in the order in which they were first put, and each holds what was put under it last. Collections
of resources and their editions are such lists, and the index of a collection only saves the search.
-/

namespace ApiNotes

namespace Keyed

variable {α κ : Type} [DecidableEq κ] {key : α → κ}

theorem map_key_put_of_mem {a : α} {xs : List α} (h : key a ∈ xs.map key) :
    (put key a xs).map key = xs.map key := by
  induction xs with
  | nil => cases h
  | cons x xs ih =>
    by_cases hx : key x = key a
    · simp [put, hx]
    · rcases List.mem_cons.1 h with h | h
      · exact (hx h.symm).elim
      · simp [put, hx, ih h]

theorem put_of_not_mem {a : α} {xs : List α} (h : key a ∉ xs.map key) :
    put key a xs = xs ++ [a] := by
  induction xs with
  | nil => rfl
  | cons x xs ih =>
    rw [List.map_cons, List.mem_cons, not_or] at h
    simp [put, Ne.symm h.1, ih h.2]

theorem map_key_put [BEq κ] [LawfulBEq κ] {xs : List α} {seen : List κ}
    (h : xs.map key = seen.eraseDups) (a : α) :
    (put key a xs).map key = (seen ++ [key a]).eraseDups := by
  have hmem : key a ∈ xs.map key ↔ key a ∈ seen := by rw [h, List.mem_eraseDups]
  rw [List.eraseDups_append]
  by_cases ha : key a ∈ seen
  · rw [map_key_put_of_mem (hmem.2 ha), h]
    simp [List.removeAll, ha]
  · rw [put_of_not_mem (mt hmem.1 ha), List.map_append, h]
    simp [List.removeAll, ha, List.eraseDups_cons]

theorem get?_of_mem {a : α} {xs : List α} (hd : (xs.map key).Nodup) (ha : a ∈ xs) :
    get? key (key a) xs = some a := by
  induction xs with
  | nil => cases ha
  | cons x xs ih =>
    rw [List.map_cons, List.nodup_cons] at hd
    rcases List.mem_cons.1 ha with rfl | ha
    · simp [get?]
    · have hne : key x ≠ key a := fun h => hd.1 (h ▸ List.mem_map_of_mem ha)
      simpa [get?, hne] using ih hd.2 ha

theorem map_key_foldl_put [BEq κ] [LawfulBEq κ] (xs : List α) :
    (xs.foldl (fun ys a => put key a ys) []).map key = (xs.map key).eraseDups := by
  induction xs using List.reverseRecOn with
  | nil => rfl
  | append_singleton xs a ih =>
    rw [List.foldl_concat, List.map_append]
    exact map_key_put ih a

theorem get?_foldl_put (k : κ) (xs : List α) :
    get? key k (xs.foldl (fun ys a => put key a ys) []) =
      (xs.filter fun x => key x = k).getLast? := by
  induction xs using List.reverseRecOn with
  | nil => rfl
  | append_singleton xs a ih =>
    rw [List.foldl_concat, get?_put, ih, List.filter_append]
    by_cases h : key a = k <;> simp [h]

theorem get?_remove (k k' : κ) (xs : List α) :
    get? key k (remove key k' xs) = if k = k' then none else get? key k xs := by
  rw [get?, remove, List.find?_filter]
  split
  · next h =>
    rw [List.find?_eq_none]
    intro x _
    simp [h]
  · next h =>
    rw [get?]
    congr 1
    funext x
    by_cases hx : key x = k <;> simp [hx, h]

theorem put_of_getElem? {a : α} {xs : List α} {i : Nat} (hd : (xs.map key).Nodup)
    (h : xs[i]?.map key = some (key a)) : put key a xs = xs.set i a := by
  induction xs generalizing i with
  | nil => cases h
  | cons x xs ih =>
    rw [List.map_cons, List.nodup_cons] at hd
    cases i with
    | zero =>
      have hx : key x = key a := by simpa using h
      simp [put, hx]
    | succ i =>
      rw [List.getElem?_cons_succ] at h
      obtain ⟨y, hy, hk⟩ := Option.map_eq_some_iff.1 h
      have hx : key x ≠ key a := fun hx =>
        hd.1 (List.mem_map.2 ⟨y, List.mem_of_getElem? hy, hk.trans hx.symm⟩)
      simp [put, hx, ih hd.2 h]

namespace Indexes

variable {index : κ → Option Nat} {xs : List α}

omit [DecidableEq κ] in
theorem nodup (h : Indexes key index xs) : (xs.map key).Nodup := by
  rw [List.Nodup, List.pairwise_iff_getElem]
  intro i j hi hj hij he
  have hget : ∀ n (hn : n < (xs.map key).length), index (xs.map key)[n] = some n := by
    intro n hn
    rw [h, ← List.getElem?_map, List.getElem?_eq_getElem hn]
  have hslot := hget i hi
  rw [he, hget j hj, Option.some.injEq] at hslot
  omega

theorem get?_eq (h : Indexes key index xs) (k : κ) :
    get? key k xs = (index k).bind fun i => xs[i]? := by
  cases hk : index k with
  | none =>
    rw [Option.bind_none, get?, List.find?_eq_none]
    intro x hx hkx
    obtain ⟨i, hi⟩ := List.getElem?_of_mem hx
    have := (h k i).2 (by simpa [hi] using hkx)
    simp [hk] at this
  | some i =>
    obtain ⟨x, hx, rfl⟩ := Option.map_eq_some_iff.1 ((h k i).1 hk)
    rw [Option.bind_some, hx]
    exact get?_of_mem h.nodup (List.mem_of_getElem? hx)

end Indexes

end Keyed

namespace Resources

variable (rs : Resources) (r : Resource)

theorem distinct : (rs.entries.map Resource.key).Nodup := rs.indexed.nodup

theorem get?_eq (key : Text) : rs.get? key = Keyed.get? Resource.key key rs.entries := by
  rw [rs.indexed.get?_eq, get?]
  split
  · next slot h => simp [h, entryAt]
  · next h => simp [h]

theorem exchange_fst : (rs.exchange r).1 = rs.get? r.key := by
  unfold exchange get?
  split <;> rfl

theorem entries_insert : (rs.insert r).entries = Keyed.put Resource.key r rs.entries := by
  unfold insert exchange
  split
  · next slot h => exact (Keyed.put_of_getElem? rs.distinct ((rs.indexed _ _).1 h)).symm
  · next h =>
    refine (Keyed.put_of_not_mem fun hm => ?_).symm
    obtain ⟨slot, hs⟩ := List.getElem?_of_mem hm
    rw [List.getElem?_map, ← rs.indexed, h] at hs
    cases hs

theorem entries_foldl_insert (rs : List Resource) (init : Resources) :
    (rs.foldl insert init).entries =
      rs.foldl (fun entries r => Keyed.put Resource.key r entries) init.entries := by
  induction rs generalizing init with
  | nil => rfl
  | cons r rs ih =>
    rw [List.foldl_cons, ih, entries_insert]
    rfl

theorem map_key_ofList (rs : List Resource) :
    (ofList rs).entries.map Resource.key = (rs.map Resource.key).eraseDups := by
  rw [ofList, entries_foldl_insert]
  exact Keyed.map_key_foldl_put rs

theorem get?_ofList (rs : List Resource) (key : Text) :
    (ofList rs).get? key = (rs.filter fun r => r.key = key).getLast? := by
  rw [get?_eq, ofList, entries_foldl_insert]
  exact Keyed.get?_foldl_put key rs

theorem getLast?_of_mem_ofList {rs : List Resource} {r : Resource}
    (h : r ∈ (ofList rs).entries) :
    (rs.filter fun r' => r'.key = r.key).getLast? = some r := by
  rw [← get?_ofList, get?_eq]
  exact Keyed.get?_of_mem (ofList rs).distinct h

end Resources

namespace Editions

theorem entries_insert (es : Editions) (r : Resource) :
    (es.insert r).entries = Keyed.put Edition.version
      ⟨r.version, ((es.get? r.version).getD .empty).insert r⟩ es.entries := rfl

theorem get?_insert (es : Editions) (r : Resource) (version : Option Text) :
    (es.insert r).get? version =
      if r.version = version then some (((es.get? version).getD .empty).insert r)
      else es.get? version := by
  simp only [get?, entries_insert, Keyed.get?_put]
  split
  · next h => simp [h]
  · rfl

theorem versions_ofList (rs : List Resource) :
    (ofList rs).versions = (rs.map Resource.version).eraseDups := by
  induction rs using List.reverseRecOn with
  | nil => rfl
  | append_singleton rs r ih =>
    rw [ofList, List.foldl_concat, ← ofList, List.map_append]
    exact Keyed.map_key_put ih ⟨r.version, _⟩

theorem get?_ofList (rs : List Resource) (version : Option Text) :
    (ofList rs).get? version =
      if version ∈ rs.map Resource.version then
        some (.ofList (rs.filter fun r => r.version = version))
      else none := by
  induction rs using List.reverseRecOn with
  | nil => rfl
  | append_singleton rs r ih =>
    rw [ofList, List.foldl_concat, ← ofList, get?_insert, ih, List.map_append, List.filter_append]
    by_cases h : r.version = version
    · by_cases hm : version ∈ rs.map Resource.version
      · simp [h, hm, Resources.ofList]
      · have hf : rs.filter (fun r => r.version = version) = [] := by
          rw [List.filter_eq_nil_iff]
          intro r' hr' he
          exact hm (List.mem_map.2 ⟨r', hr', by simpa using he⟩)
        simp [h, hm, hf, Resources.ofList]
    · simp [h, Ne.symm h]

theorem get?_of_mem {es : Editions} {edition : Edition} (h : edition ∈ es.entries) :
    es.get? edition.version = some edition.resources := by
  rw [get?, Keyed.get?_of_mem es.distinct h]
  rfl

theorem resources_of_mem_ofList {rs : List Resource} {edition : Edition}
    (h : edition ∈ (ofList rs).entries) :
    edition.resources = .ofList (rs.filter fun r => r.version = edition.version) := by
  have hg := get?_of_mem h
  rw [get?_ofList] at hg
  split at hg
  · exact (Option.some.inj hg).symm
  · cases hg

theorem map_key_of_mem_ofList {rs : List Resource} {edition : Edition}
    (h : edition ∈ (ofList rs).entries) :
    edition.resources.entries.map Resource.key =
      ((rs.filter fun r => r.version = edition.version).map Resource.key).eraseDups := by
  rw [resources_of_mem_ofList h]
  exact Resources.map_key_ofList _

theorem getLast?_of_mem_ofList {rs : List Resource} {edition : Edition} {r : Resource}
    (h : edition ∈ (ofList rs).entries) (hr : r ∈ edition.resources.entries) :
    (rs.filter fun r' => r'.version = edition.version ∧ r'.key = r.key).getLast? = some r := by
  rw [resources_of_mem_ofList h] at hr
  have hl := Resources.getLast?_of_mem_ofList hr
  rw [List.filter_filter] at hl
  simpa only [Bool.decide_and, Bool.and_comm] using hl

end Editions

end ApiNotes
