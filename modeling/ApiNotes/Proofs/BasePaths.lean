import ApiNotes.Files.Path
import ApiNotes.Proofs.Lookup
import ApiNotes.Proofs.Segmentation

/-! # Looking up below a base path

A path that is not found as it is gets looked up once more, without the base path in front of it.
The base path counts without the slashes at its end, and it has to end where a segment of the path
ends. So a resource is found below every base path, unless another one stands at the whole path.
-/

namespace ApiNotes.Resources

open ApiNotes.Path

/-- What is left of a path below a base path that does not end in a slash. It begins with a slash,
and the base path itself is the root below it. -/
def IsBelow (base path rest : Text) : Prop :=
  base ≠ [] ∧ (path = base ∧ rest = ['/'] ∨ path = base ++ rest ∧ rest.head? = some '/')

section Below

variable {base path rest : Text} {rs : Resources} {method : Text}

theorem below?_eq_some_iff :
    below? base path = some rest ↔ IsBelow (trimSlashes base) path rest := by
  simp only [below?, IsBelow, show Text.dropEndWhile (· == '/') base = trimSlashes base from rfl]
  generalize trimSlashes base = root
  split
  · next h => simp [List.isEmpty_iff.1 h]
  · next h =>
    rw [List.isEmpty_iff] at h
    simp only [ne_eq, h, not_false_eq_true, true_and]
    -- The cases are those of what follows the base path: nothing, a slash, or something else.
    cases ha : Text.after? root path with
    | none =>
      have hno := Text.after?_eq_none_iff.1 ha
      simp only [reduceCtorEq, false_iff, not_or, not_and]
      constructor
      · rintro rfl
        exact absurd (List.prefix_refl _) hno
      · rintro rfl
        exact absurd (List.prefix_append _ _) hno
    | some after =>
      obtain rfl := Text.after?_eq_some_iff.1 ha
      rw [List.append_right_eq_self, List.append_cancel_left_eq]
      split
      · next heq =>
        obtain rfl := Option.some.inj heq
        constructor
        · rintro ⟨⟩
          exact Or.inl ⟨rfl, rfl⟩
        · rintro (⟨-, rfl⟩ | ⟨rfl, ⟨⟩⟩)
          rfl
      · next heq =>
        obtain rfl := Option.some.inj heq
        constructor
        · rintro ⟨⟩
          exact Or.inr ⟨rfl, rfl⟩
        · rintro (⟨⟨⟩, -⟩ | ⟨rfl, -⟩)
          rfl
      · next hnil hslash =>
        simp only [reduceCtorEq, false_iff, not_or, not_and]
        constructor
        · rintro rfl
          exact absurd rfl hnil
        · rintro rfl hhead
          obtain ⟨tail, rfl⟩ := List.head?_eq_some_iff.1 hhead
          exact absurd rfl (hslash tail)

theorem findUnder?_of_isBelow (h : IsBelow (trimSlashes base) path rest) :
    rs.findUnder? base path method = (rs.find? path method).or (rs.find? rest method) := by
  rw [findUnder?, below?_eq_some_iff.2 h, Option.bind_some]

theorem findUnder?_of_not_isBelow (h : ∀ rest, ¬ IsBelow (trimSlashes base) path rest) :
    rs.findUnder? base path method = rs.find? path method := by
  have hnone : below? base path = none :=
    Option.eq_none_iff_forall_ne_some.2 fun rest hr => h rest (below?_eq_some_iff.1 hr)
  rw [findUnder?, hnone, Option.bind_none, Option.or_none]

theorem not_isBelow_of_cons {c : Char} (hc : c ≠ '/') (base tail rest : Text) :
    ¬ IsBelow base (base ++ c :: tail) rest := by
  rintro ⟨-, ⟨hpath, -⟩ | ⟨hpath, hhead⟩⟩
  · simp at hpath
  · rw [← List.append_cancel_left hpath] at hhead
    exact hc (Option.some.inj hhead)

end Below

/-- A path is looked up as it is, and if that fails without the base path, which has to end where a
segment ends. Slashes at the end of the base path do not count, a stored resource is found behind
every base path unless one stands at the whole path, and the base path is taken off once. -/
theorem findUnder?_exact_or_below (rs : Resources) (base path method : Text) :
    let root := trimSlashes base
    (root.getLast? ≠ some '/' ∧ ∃ n, base = root ++ List.replicate n '/') ∧
    (∀ r, rs.find? path method = some r → rs.findUnder? base path method = some r) ∧
    (rs.find? path method = none →
      (∀ rest, IsBelow root path rest →
        rs.findUnder? base path method = rs.find? rest method) ∧
      ((∀ rest, ¬ IsBelow root path rest) → rs.findUnder? base path method = none)) ∧
    (∀ n, rs.findUnder? (base ++ List.replicate n '/') path method =
      rs.findUnder? base path method) ∧
    (∀ r ∈ rs.entries, r.path.head? = some '/' → r.method.lower = r.method →
      rs.find? (root ++ r.path) r.method = none →
        rs.findUnder? base (root ++ r.path) r.method = some r) ∧
    (∀ c tail, c ≠ '/' → rs.findUnder? base (root ++ c :: tail) method =
      rs.find? (root ++ c :: tail) method) ∧
    ∀ rest, root.head? = some '/' → rs.findUnder? base (root ++ (root ++ rest)) method =
      (rs.find? (root ++ (root ++ rest)) method).or (rs.find? (root ++ rest) method) := by
  intro root
  refine ⟨Text.exists_replicate_dropEndWhile '/' base, fun r hr => ?_, fun hnone => ⟨?_, ?_⟩,
    fun n => ?_, fun r hr hslash hlower hnone => ?_, fun c tail hc => ?_, fun rest hslash => ?_⟩
  · rw [findUnder?, hr, Option.some_or]
  · intro rest h
    rw [findUnder?_of_isBelow h, hnone, Option.none_or]
  · intro h
    rw [findUnder?_of_not_isBelow h, hnone]
  · have hbelow : below? (base ++ List.replicate n '/') path = below? base path := by
      simp only [below?, Text.dropEndWhile_append_replicate]
    rw [findUnder?, hbelow, findUnder?]
  · have hfind : rs.find? r.path r.method = some r := find?_of_mem hr hlower rfl
    have hroot : root ≠ [] := by
      intro hnil
      rw [hnil, List.nil_append, hfind] at hnone
      cases hnone
    rw [findUnder?_of_isBelow ⟨hroot, Or.inr ⟨rfl, hslash⟩⟩, hnone, Option.none_or, hfind]
  · exact findUnder?_of_not_isBelow (not_isBelow_of_cons hc _ tail)
  · obtain ⟨tail, htail⟩ := List.head?_eq_some_iff.1 hslash
    refine findUnder?_of_isBelow ⟨?_, Or.inr ⟨rfl, ?_⟩⟩
    · change root ≠ []
      simp [htail]
    · simp [htail]

/-- Of two resources one is found without the base path `/api` and one at the whole path. The base
path is neither taken off twice nor in the middle of a segment. -/
theorem findUnder?_exact_or_below_of_mount :
    let resource := fun path : String =>
      ({ path := path.toList, method := "get".toList, version := none, tags := []
         displayName := [], description := none, deprecated := false
         deprecatedDescription := none, roles := [], params := []
         responses := [⟨200, "ok".toList, []⟩] } : Resource)
    let rs := ofList [resource "/product", resource "/api/users"]
    rs.findUnder? "/api//".toList "/api/product".toList "get".toList = some (resource "/product") ∧
      rs.findUnder? "/api//".toList "/api/api/product".toList "get".toList = none ∧
      rs.findUnder? "/api//".toList "/api-product".toList "get".toList = none ∧
      rs.findUnder? "/api//".toList "/api/users".toList "get".toList =
        some (resource "/api/users") := by
  intro resource rs
  have hfind : ∀ path : String, path ∈ ["/api/api/product", "/api/product", "/api-product"] →
      rs.find? path.toList "get".toList = none := by
    decide +kernel
  have hstored : resource "/product" ∈ rs.entries := by
    have hentries : rs.entries = [resource "/product", resource "/api/users"] := by decide +kernel
    simp [hentries]
  have h := fun path => findUnder?_exact_or_below rs "/api//".toList path "get".toList
  obtain ⟨-, -, -, -, hmounted, hapart, honce⟩ := h []
  refine ⟨?_, ?_, ?_, (h "/api/users".toList).2.1 _ (by decide +kernel)⟩
  · exact hmounted _ hstored rfl (by decide +kernel) (hfind "/api/product" (by simp))
  · have hroot : trimSlashes "/api//".toList = "/api".toList := by decide
    rw [hroot] at honce
    exact (honce "/product".toList rfl).trans <|
      Option.or_eq_none_iff.2 ⟨hfind "/api/api/product" (by simp), hfind "/api/product" (by simp)⟩
  · exact (hapart '-' "product".toList (by decide)).trans (hfind "/api-product" (by simp))

end ApiNotes.Resources
