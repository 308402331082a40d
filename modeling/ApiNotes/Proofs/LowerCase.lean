import ApiNotes.Text.Case

/-! # Lower case is settled

The forms that lower case gives a character are lower case themselves: the tables map none of them
any further. So a text in lower case, final sigmas included, is its own lower case. A space is the
form of no other character and ends a word, so that words are put into lower case one by one.
-/

namespace ApiNotes

namespace CaseRow

variable {row other : CaseRow} {n : Nat}

def low (row : CaseRow) : Nat := (row.first + row.offset : Int).toNat

def high (row : CaseRow) : Nat := (row.last + row.offset : Int).toNat

/-- Another row maps no code point from `low` to `high`: they lie to one side of its own, or fall
between these, of which it takes every second one. -/
def misses (other : CaseRow) (low high step : Nat) : Bool :=
  Nat.blt high other.first || Nat.blt other.last low ||
    (step == 2 || low == high) && other.step == 2 && (low + other.first) % 2 == 1

theorem applies_iff :
    row.applies n = true ↔ row.first ≤ n ∧ n ≤ row.last ∧ (n - row.first) % row.step = 0 := by
  simp [applies, and_assoc]

theorem not_applies_of_misses (h : other.misses row.low row.high row.step = true)
    (hrow : (0 : Int) ≤ row.first + row.offset) (hn : row.applies n = true) :
    other.applies (n + row.offset : Int).toNat = false := by
  rw [Bool.eq_false_iff, ne_eq, applies_iff]
  rintro ⟨hfirst, hlast, hstep⟩
  obtain ⟨hn, hn', hnstep⟩ := applies_iff.1 hn
  simp only [misses, low, high, Nat.blt_eq, Bool.or_eq_true, Bool.and_eq_true, beq_iff_eq] at h
  rcases h with (h | h) | ⟨⟨hs | hs, hs'⟩, hodd⟩
  · omega
  · omega
  · rw [hs] at hnstep
    rw [hs'] at hstep
    omega
  · rw [hs'] at hstep
    omega

end CaseRow

def IsLower (n : Nat) : Prop :=
  (∀ row ∈ lowerRows, row.applies n = false) ∧ ∀ expansion ∈ lowerExpansions, expansion.1 ≠ n

instance (n : Nat) : Decidable (IsLower n) := inferInstanceAs (Decidable (_ ∧ _))

section Table

theorem lowerRows_misses :
    (lowerRows.all fun row => lowerRows.all fun other => other.misses row.low row.high row.step) =
      true := by
  decide +kernel

theorem lowerRows_bounds : ∀ row ∈ lowerRows, ' '.toNat < row.low ∧
    ∀ expansion ∈ lowerExpansions, row.high < expansion.1 ∨ expansion.1 < row.low := by
  decide +kernel

theorem isLower_expansions : ∀ expansion ∈ lowerExpansions, ∀ n ∈ expansion.2,
    IsLower n ∧ Char.ofNat n ≠ ' ' := by
  decide +kernel

theorem isLower_special : IsLower 0 ∧ IsLower ' '.toNat ∧ IsLower 'σ'.toNat ∧
    IsLower 'ς'.toNat ∧ ¬IsLower 'Σ'.toNat := by
  decide +kernel

variable {row : CaseRow} {c d : Char} {n : Nat}

theorem isLower_of_applies (hrow : row ∈ lowerRows) (hn : row.applies n = true) :
    IsLower (n + row.offset : Int).toNat := by
  obtain ⟨hlow, hexpansions⟩ := lowerRows_bounds row hrow
  have hpos : (0 : Int) ≤ row.first + row.offset := by
    unfold CaseRow.low at hlow
    omega
  have hrows := List.all_eq_true.1 (List.all_eq_true.1 lowerRows_misses row hrow)
  refine ⟨fun other ho => CaseRow.not_applies_of_misses (hrows other ho) hpos hn, ?_⟩
  intro expansion he heq
  obtain ⟨hfirst, hlast, -⟩ := CaseRow.applies_iff.1 hn
  have hside := hexpansions expansion he
  unfold CaseRow.low CaseRow.high at hside
  omega

/-- A number that is no code point stands for the null character. -/
theorem toNat_ofNat_cases (n : Nat) : (Char.ofNat n).toNat = n ∨ (Char.ofNat n).toNat = 0 := by
  by_cases hn : n.isValidChar
  · rw [Char.ofNat, dif_pos hn]
    exact Or.inl rfl
  · rw [Char.ofNat, dif_neg hn]
    exact Or.inr rfl

theorem IsLower.ofNat (h : IsLower n) : IsLower (Char.ofNat n).toNat := by
  rcases toNat_ofNat_cases n with hn | hn
  · rwa [hn]
  · rw [hn]
    exact isLower_special.1

theorem lowerChar_eq_self (h : IsLower c.toNat) : lowerChar c = [c] := by
  have hrows : lowerRows.find? (fun row => row.applies c.toNat) = none := by
    rw [List.find?_eq_none]
    intro row hrow
    simp [h.1 row hrow]
  have hexpansions : lowerExpansions.find? (fun expansion => expansion.1 == c.toNat) = none := by
    rw [List.find?_eq_none]
    intro expansion he
    simpa using h.2 expansion he
  simp only [lowerChar, mapCase, hrows, hexpansions]

theorem isLower_of_mem_lowerChar (h : d ∈ lowerChar c) : IsLower d.toNat := by
  unfold lowerChar mapCase at h
  split at h
  · next row hrow =>
    obtain rfl := List.mem_singleton.1 h
    have happlies := List.find?_some hrow
    exact (isLower_of_applies (List.mem_of_find?_eq_some hrow) happlies).ofNat
  · next hrows =>
    split at h
    · next form hform =>
      obtain ⟨n, hn, rfl⟩ := List.mem_map.1 h
      exact (isLower_expansions _ (List.mem_of_find?_eq_some hform) n hn).1.ofNat
    · next hexpansions =>
      obtain rfl := List.mem_singleton.1 h
      rw [List.find?_eq_none] at hrows hexpansions
      exact ⟨fun row hrow => by simpa using hrows row hrow,
        fun expansion he => by simpa using hexpansions expansion he⟩

theorem eq_space_of_mem_lowerChar (h : ' ' ∈ lowerChar c) : c = ' ' := by
  unfold lowerChar mapCase at h
  split at h
  · next row hrow =>
    obtain ⟨hlow, -⟩ := lowerRows_bounds row (List.mem_of_find?_eq_some hrow)
    have happlies := List.find?_some hrow
    obtain ⟨hfirst, -, -⟩ := CaseRow.applies_iff.1 happlies
    have hform := congrArg Char.toNat (List.mem_singleton.1 h)
    have hspace : ' '.toNat = 32 := rfl
    unfold CaseRow.low at hlow
    rcases toNat_ofNat_cases (c.toNat + row.offset : Int).toNat with hn | hn
    · omega
    · omega
  · split at h
    · next form hform =>
      obtain ⟨n, hn, heq⟩ := List.mem_map.1 h
      exact absurd heq (isLower_expansions _ (List.mem_of_find?_eq_some hform) n hn).2
    · exact (List.mem_singleton.1 h).symm

end Table

namespace Text

theorem isLower_of_mem_lowerAfter {before s : Text} {c : Char} (h : c ∈ lowerAfter before s) :
    IsLower c.toNat := by
  induction s generalizing before with
  | nil => cases h
  | cons d s ih =>
    rw [lowerAfter, List.mem_append] at h
    rcases h with h | h
    · split at h
      · -- Both small sigmas are lower case, so which of them the context asks for is no matter.
        split at h
        · obtain rfl := List.mem_singleton.1 h
          exact isLower_special.2.2.2.1
        · obtain rfl := List.mem_singleton.1 h
          exact isLower_special.2.2.1
      · exact isLower_of_mem_lowerChar h
    · exact ih h

theorem lowerAfter_eq_self {before s : Text} (h : ∀ c ∈ s, IsLower c.toNat) :
    lowerAfter before s = s := by
  induction s generalizing before with
  | nil => rfl
  | cons c s ih =>
    rw [List.forall_mem_cons] at h
    have hsigma : c ≠ 'Σ' := by
      rintro rfl
      exact isLower_special.2.2.2.2 h.1
    rw [lowerAfter, if_neg hsigma, lowerChar_eq_self h.1, ih h.2]
    rfl

theorem lower_lower (s : Text) : s.lower.lower = s.lower :=
  lowerAfter_eq_self fun _ => isLower_of_mem_lowerAfter

theorem space_mem_of_mem_lowerAfter {before s : Text} (h : ' ' ∈ lowerAfter before s) :
    ' ' ∈ s := by
  induction s generalizing before with
  | nil => cases h
  | cons c s ih =>
    rw [lowerAfter, List.mem_append] at h
    rcases h with h | h
    · split at h
      · -- Neither of the small sigmas is a space.
        split at h
        · exact absurd h (by decide)
        · exact absurd h (by decide)
      · exact eq_space_of_mem_lowerChar h ▸ List.mem_cons_self
    · exact List.mem_cons_of_mem c (ih h)

theorem meetsCased_append_space (s t : Text) : meetsCased (s ++ ' ' :: t) = meetsCased s := by
  have hspace : isCaseIgnorable ' ' = false ∧ isCased ' ' = false := by decide +kernel
  unfold meetsCased
  rw [List.dropWhile_append]
  split
  · next hs =>
    rw [List.isEmpty_iff.1 hs]
    simp [hspace]
  · next hs =>
    obtain ⟨c, rest, hc⟩ := List.exists_cons_of_ne_nil (mt List.isEmpty_iff.2 hs)
    rw [hc]
    rfl

theorem lowerAfter_append_space (before rest s : Text) :
    lowerAfter (before ++ ' ' :: rest) s = lowerAfter before s := by
  induction s generalizing before with
  | nil => rfl
  | cons c s ih =>
    rw [lowerAfter, lowerAfter, meetsCased_append_space, ← List.cons_append, ih]

theorem lower_append_space (s t : Text) : (s ++ ' ' :: t).lower = s.lower ++ ' ' :: t.lower := by
  have hafter : ∀ before, lowerAfter before (s ++ ' ' :: t) =
      lowerAfter before s ++ ' ' :: lowerAfter [] t := by
    intro before
    induction s generalizing before with
    | nil =>
      have hspace : lowerChar ' ' = [' '] := lowerChar_eq_self isLower_special.2.1
      have hcons : lowerAfter before (' ' :: t) =
          lowerChar ' ' ++ lowerAfter (' ' :: before) t := by
        rw [lowerAfter, if_neg (by decide)]
      rw [List.nil_append, hcons, hspace]
      exact congrArg (' ' :: ·) (lowerAfter_append_space [] before t)
    | cons c s ih =>
      rw [List.cons_append, lowerAfter, lowerAfter, meetsCased_append_space, ih,
        List.append_assoc]
  exact hafter []

end Text

end ApiNotes
