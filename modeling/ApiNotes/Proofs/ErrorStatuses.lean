import Mathlib.Data.Nat.Digits.Defs
import ApiNotes.Proofs.LeftmostTokens
import ApiNotes.Proofs.TagFamilies

/-! # Statuses of errors

The group of an error is its status if it is written as a decimal number of 16 bits. All other
groups, and none at all, leave the default status and are no fault.
-/

namespace ApiNotes

open Fields TagLine

def digitValue (c : Char) : Nat := c.toNat - '0'.toNat

/-- The text is some decimal digits after an optional plus sign, which have the value `n`. -/
def IsDecimal (s : Text) (n : Nat) : Prop :=
  ∃ sign digits, s = sign ++ digits ∧ (sign = [] ∨ sign = ['+']) ∧ digits ≠ [] ∧
    (∀ c ∈ digits, '0' ≤ c ∧ c ≤ '9') ∧ n = Nat.ofDigits 10 (digits.reverse.map digitValue)

/-- What stands, trimmed, in the leftmost parentheses of a text that are no part of its name. -/
def IsGroup (text content : Text) : Prop :=
  ∃ t, IsLeftmost (IsDelimited '(' ')' .word text) (some t) ∧ t.value = content

/-- The status that an error has by its text. -/
def HasStatus (text : Text) (status : Nat) : Prop :=
  (∃ content, IsGroup text content ∧ IsDecimal content status ∧ status ≤ 65535) ∨
    status = 400 ∧ ∀ content n, IsGroup text content → IsDecimal content n → 65535 < n

section Decimal

def unsigned (s : Text) : Text := (Text.after? ['+'] s).getD s

variable {s : Text} {n : Nat}

theorem isDigit_iff {c : Char} : c.isDigit = true ↔ '0' ≤ c ∧ c ≤ '9' := by
  simp [Char.isDigit, Char.le_def]

theorem foldl_digits (digits : Text) :
    digits.foldl (fun n c => 10 * n + (c.toNat - '0'.toNat)) 0 =
      Nat.ofDigits 10 (digits.reverse.map digitValue) := by
  induction digits using List.reverseRecOn with
  | nil => rfl
  | append_singleton digits c ih =>
    rw [List.foldl_concat, ih, List.reverse_append, List.reverse_singleton, List.singleton_append,
      List.map_cons, Nat.ofDigits_cons]
    exact Nat.add_comm _ _

theorem isDecimal_iff :
    IsDecimal s n ↔ unsigned s ≠ [] ∧ (∀ c ∈ unsigned s, '0' ≤ c ∧ c ≤ '9') ∧
      n = Nat.ofDigits 10 ((unsigned s).reverse.map digitValue) := by
  constructor
  · rintro ⟨sign, digits, rfl, hsign, hne, hdigits, hn⟩
    have hunsigned : unsigned (sign ++ digits) = digits := by
      rcases hsign with rfl | rfl
      · obtain ⟨c, digits, rfl⟩ := List.exists_cons_of_ne_nil hne
        have hplus : '+' ≠ c := by
          rintro rfl
          exact absurd (hdigits '+' List.mem_cons_self) (by decide)
        simp [unsigned, Text.after?, hplus]
      · rfl
    rw [hunsigned]
    exact ⟨hne, hdigits, hn⟩
  · rintro ⟨hne, hdigits, hn⟩
    cases s with
    | nil => exact absurd rfl hne
    | cons c s =>
      by_cases hplus : '+' = c
      · subst hplus
        exact ⟨['+'], s, rfl, Or.inr rfl, hne, hdigits, hn⟩
      · have hunsigned : unsigned (c :: s) = c :: s := by simp [unsigned, Text.after?, hplus]
        rw [hunsigned] at hdigits hn
        exact ⟨[], c :: s, rfl, Or.inl rfl, List.cons_ne_nil _ _, hdigits, hn⟩

theorem status?_eq_some_iff : Entry.status? s = some n ↔ IsDecimal s n ∧ n ≤ 65535 := by
  have hunsigned : (Text.after? ['+'] s).getD s = unsigned s := rfl
  rw [isDecimal_iff]
  simp only [Entry.status?, hunsigned, foldl_digits, Option.ite_none_right_eq_some,
    Bool.and_eq_true, Bool.not_eq_true', List.isEmpty_eq_false_iff, List.all_eq_true, isDigit_iff,
    decide_eq_true_eq, Option.some.injEq, UInt16.size]
  constructor
  · rintro ⟨⟨⟨hne, hdigits⟩, hlt⟩, rfl⟩
    exact ⟨⟨hne, hdigits, rfl⟩, Nat.le_of_lt_succ hlt⟩
  · rintro ⟨⟨hne, hdigits, rfl⟩, hle⟩
    exact ⟨⟨⟨hne, hdigits⟩, Nat.lt_succ_of_le hle⟩, rfl⟩

end Decimal

section Status

variable {text content : Text} {status : Nat}

theorem isGroup_iff :
    IsGroup text content ↔ (ofText .word text).group.map Token.value = some content := by
  have hleftmost := (tokenized_ofText .word text).group
  rw [Option.map_eq_some_iff]
  constructor
  · rintro ⟨t, ht, rfl⟩
    exact ⟨t, hleftmost.unique ht, rfl⟩
  · rintro ⟨t, ht, rfl⟩
    rw [ht] at hleftmost
    exact ⟨t, hleftmost, rfl⟩

theorem bind_status?_eq_some_iff :
    ((ofText .word text).group.bind fun group => Entry.status? group.value) = some status ↔
      ∃ content, IsGroup text content ∧ IsDecimal content status ∧ status ≤ 65535 := by
  simp only [isGroup_iff, ← status?_eq_some_iff, Option.map_eq_some_iff, Option.bind_eq_some_iff]
  constructor
  · rintro ⟨t, ht, hstatus⟩
    exact ⟨t.value, ⟨t, ht, rfl⟩, hstatus⟩
  · rintro ⟨_, ⟨t, ht, rfl⟩, hstatus⟩
    exact ⟨t, ht, hstatus⟩

/-- The condition leaves one status, which is the one that is read. -/
theorem hasStatus_iff :
    HasStatus text status ↔
      ((ofText .word text).group.bind fun group => Entry.status? group.value).getD
        Entry.defaultStatus = status := by
  cases hstatus : (ofText .word text).group.bind fun group => Entry.status? group.value with
  | some n =>
    obtain ⟨content, hgroup, hdecimal, hle⟩ := bind_status?_eq_some_iff.1 hstatus
    rw [Option.getD_some]
    constructor
    · rintro (h | ⟨-, hnone⟩)
      · exact Option.some.inj (hstatus.symm.trans (bind_status?_eq_some_iff.2 h))
      · exact absurd hle (Nat.not_le_of_lt (hnone content n hgroup hdecimal))
    · rintro rfl
      exact Or.inl ⟨content, hgroup, hdecimal, hle⟩
  | none =>
    rw [Option.getD_none]
    constructor
    · rintro (h | ⟨rfl, -⟩)
      · cases hstatus.symm.trans (bind_status?_eq_some_iff.2 h)
      · rfl
    · rintro rfl
      refine Or.inr ⟨rfl, fun content n hgroup hdecimal => Nat.lt_of_not_le fun hle => ?_⟩
      cases hstatus.symm.trans (bind_status?_eq_some_iff.2 ⟨content, hgroup, hdecimal, hle⟩)

theorem readError_of_name {name : Token} (h : (ofText .word text).name = some name) :
    ∃ response, Entry.readError text = .ok response := by
  simp only [Entry.readError, h]
  exact ⟨_, rfl⟩

theorem readError_of_no_name (h : (ofText .word text).name = none) :
    Entry.readError text = .error (.missing Tag.error.keyword .name) := by
  simp only [Entry.readError, h]
  rfl

theorem hasStatus_of_readError {response : Response}
    (h : Entry.readError text = .ok response) : HasStatus text response.status := by
  obtain ⟨name, -, h⟩ := bind_eq_ok_iff.1 h
  obtain rfl := Except.ok.inj h
  exact hasStatus_iff.2 rfl

end Status

/-- An error has exactly one status, whatever its group is, and lacks nothing but its name. -/
theorem readBlock_error_status (table : Definitions) (policy : Policy) (body text : Text) :
    (∀ name, (ofText .word text).name = some name →
      ∃ response, Entry.ofTag .error text = .ok (.error response) ∧
        ∀ status, HasStatus text status ↔ response.status = status) ∧
    (∀ fault, Entry.ofTag .error text = .error fault ↔
      (ofText .word text).name = none ∧ fault = .missing Tag.error.keyword .name) ∧
    ∀ r, (readBlock table policy body).outcome = .ok (some r) →
      ∃ success errors, r.responses = success :: errors ∧
        List.Forall₂ (fun text response => HasStatus text response.status)
          (textsOf .error (Item.lines (inline table [] (ofBody body)))) errors := by
  refine ⟨?_, ?_, ?_⟩
  · intro name hname
    obtain ⟨response, hr⟩ := readError_of_name hname
    refine ⟨response, map_eq_ok_iff.2 ⟨response, hr, rfl⟩, fun status => ?_⟩
    rw [hasStatus_iff, hasStatus_iff.1 (hasStatus_of_readError hr)]
  · intro fault
    cases hname : (ofText .word text).name with
    | none =>
      rw [Entry.ofTag, map_eq_error_iff, readError_of_no_name hname, Except.error.injEq, eq_comm]
      simp
    | some name =>
      obtain ⟨response, hr⟩ := readError_of_name hname
      rw [Entry.ofTag, map_eq_error_iff, hr]
      simp
  · intro r h
    obtain ⟨fields, errors, hresponses, -, herrors⟩ :=
      (Resource.assembledFrom_of_readBlock h).responses
    refine ⟨_, errors, hresponses, ?_⟩
    rw [textsOf, List.forall₂_map_left_iff]
    exact herrors.imp fun _ _ => hasStatus_of_readError

/-- A status with a sign and zeros in front, one of 17 bits, a negative one, one in digits that are
not ASCII, an empty group and none. -/
theorem readBlock_error_status_of_groups :
    let texts := ["(+00404) Gone".toList, "(65536) Big".toList, "Denied ( -1 )".toList,
      "(٤٠٤) Foreign".toList, "() Empty".toList, "Plain".toList]
    let body := Text.join ['\n'] ("@api \x7bget\x7d /x X".toList ::
      texts.map fun text => Tag.error.keyword ++ ' ' :: text)
    (ofText .word "(+00404) Gone".toList).name = some ⟨"Gone".toList, ⟨9, 13⟩⟩ ∧
      (∀ status, HasStatus "(+00404) Gone".toList status ↔ 404 = status) ∧
      ∃ r, (readBlock .empty .strict body).outcome = .ok (some r) ∧
        r.responses.map Response.status = [200, 404, 400, 400, 400, 400, 400] ∧
        List.Forall₂ (fun text response => HasStatus text response.status) texts
          r.responses.tail := by
  intro texts body
  have hname : (ofText .word "(+00404) Gone".toList).name = some ⟨"Gone".toList, ⟨9, 13⟩⟩ := by
    decide +kernel
  have hentry : Entry.ofTag .error "(+00404) Gone".toList =
      .ok (.error ⟨404, [], [⟨"Gone".toList, none, none, none⟩]⟩) := by
    decide +kernel
  obtain ⟨r, hr, hstatuses⟩ : ∃ r, (readBlock .empty .strict body).outcome = .ok (some r) ∧
      r.responses.map Response.status = [200, 404, 400, 400, 400, 400, 400] :=
    exists_eq_ok_some (by decide +kernel)
  have htexts : textsOf .error (Item.lines (inline .empty [] (ofBody body))) = texts := by
    decide +kernel
  obtain ⟨hread, -, hblock⟩ :=
    readBlock_error_status .empty .strict body "(+00404) Gone".toList
  obtain ⟨response, hresponse, hstatus⟩ := hread _ hname
  obtain rfl := Entry.error.inj (Except.ok.inj (hentry.symm.trans hresponse))
  obtain ⟨success, errors, hresponses, herrors⟩ := hblock r hr
  refine ⟨hname, hstatus, r, hr, hstatuses, ?_⟩
  rw [hresponses, ← htexts]
  exact herrors

end ApiNotes
