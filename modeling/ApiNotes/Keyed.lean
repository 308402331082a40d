/-! # Keyed lists

A list whose elements have keys, at most one element for each. Putting an element replaces the one
with its key where it stands and otherwise appends, so keys keep the order of their first sighting
and hold what was put last. An index of the list tells where the element of a key stands.
-/

namespace ApiNotes.Keyed

variable {α κ : Type} [DecidableEq κ] (key : α → κ)

def put (a : α) : List α → List α
  | [] => [a]
  | x :: xs => if key x = key a then a :: xs else x :: put a xs

def get? (k : κ) (xs : List α) : Option α := xs.find? fun x => key x = k

def remove (k : κ) (xs : List α) : List α := xs.filter fun x => key x ≠ k

theorem mem_put {a b : α} {xs : List α} (h : b ∈ put key a xs) : b = a ∨ b ∈ xs := by
  induction xs with
  | nil => simpa [put] using h
  | cons x xs ih =>
    simp only [put] at h
    split at h <;> grind

theorem nodup_put {a : α} {xs : List α} (h : (xs.map key).Nodup) :
    ((put key a xs).map key).Nodup := by
  induction xs with
  | nil => simp [put]
  | cons x xs ih =>
    simp only [List.map_cons, List.nodup_cons, List.mem_map, not_exists, not_and] at h
    simp only [put]
    split
    · next hx => simpa [← hx] using h
    · next hx =>
      simp only [List.map_cons, List.nodup_cons, List.mem_map, not_exists, not_and]
      refine ⟨fun b hb hbx => ?_, ih h.2⟩
      rcases mem_put key hb with rfl | hb
      · exact hx hbx.symm
      · exact h.1 b hb hbx

theorem get?_put (a : α) (k : κ) (xs : List α) :
    get? key k (put key a xs) = if key a = k then some a else get? key k xs := by
  induction xs with
  | nil => by_cases h : key a = k <;> simp [put, get?, h]
  | cons x xs ih =>
    simp only [get?] at ih
    by_cases hx : key x = key a
    · by_cases h : key a = k <;> simp [put, get?, hx, h]
    · by_cases h : key x = k
      · have : key a ≠ k := fun ha => hx (h.trans ha.symm)
        simp [put, get?, h, this, this.symm]
      · simp [put, get?, hx, h, ih]

theorem key_of_get? {k : κ} {a : α} {xs : List α} (h : get? key k xs = some a) : key a = k := by
  simpa using List.find?_some h

theorem mem_of_get? {k : κ} {a : α} {xs : List α} (h : get? key k xs = some a) : a ∈ xs :=
  List.mem_of_find?_eq_some h

/-- The index gives the position of every key of the list, and of no other key. -/
def Indexes (index : κ → Option Nat) (xs : List α) : Prop :=
  ∀ k i, index k = some i ↔ xs[i]?.map key = some k

namespace Indexes

variable {key} {index : κ → Option Nat} {xs : List α} {a : α} {k : κ} {i : Nat}

omit [DecidableEq κ] in
theorem nil : Indexes key (fun _ => none) [] := by
  intro k i
  simp

omit [DecidableEq κ] in
theorem lt_length (h : Indexes key index xs) (hi : index k = some i) : i < xs.length := by
  obtain ⟨x, hx, -⟩ := Option.map_eq_some_iff.1 ((h k i).1 hi)
  exact (List.getElem?_eq_some_iff.1 hx).1

omit [DecidableEq κ] in
/-- An element may take the place of another with its key: the index stays as it is. -/
theorem set (h : Indexes key index xs) (ha : index (key a) = some i) :
    Indexes key index (xs.set i a) := by
  intro k j
  rw [h k j, List.getElem?_set]
  split
  · next hij =>
    subst hij
    rw [(h (key a) i).1 ha, if_pos (h.lt_length ha), Option.map_some]
  · rfl

theorem append (h : Indexes key index xs) (ha : index (key a) = none) :
    Indexes key (fun k => if k = key a then some xs.length else index k) (xs ++ [a]) := by
  intro k j
  have hfresh : xs[j]?.map key ≠ some (key a) := fun hj => by
    rw [← h, ha] at hj
    cases hj
  simp only [List.getElem?_append]
  by_cases hj : j < xs.length
  · by_cases hk : k = key a
    · subst hk
      simpa [hj, Nat.ne_of_gt hj] using hfresh
    · simp [hj, hk, h k j]
  · have hnone : ∀ k, index k ≠ some j := fun k hi => hj (h.lt_length hi)
    by_cases hk : k = key a <;> grind

end Indexes

end ApiNotes.Keyed
