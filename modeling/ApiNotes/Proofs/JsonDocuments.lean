import Mathlib.Data.List.Forall2
import ApiNotes.Document.Format
import ApiNotes.Proofs.JsonGrammar
import ApiNotes.Proofs.Lines

/-! # Documents in JSON

Both ways to write a value say this value and no other, and the value of a document determines the
document. So the JSON text of a document loses nothing.
-/

namespace ApiNotes

namespace Json

section Scalars

variable (r : Text)

theorem isUnit_control {n : Nat} (h : n < 0x20) :
    IsUnit '0' '0' (Nat.digitChar (n / 16)) (Nat.digitChar (n % 16)) n := by
  have hall : ∀ n < 0x20, Text.digitsValue? 16 ("00".toList ++ hex2 n) = some n := by decide
  exact hall n h

theorem readsChar_escape (c : Char) : ReadsChar c (escape c ++ r) r := by
  have hcode {n : Nat} (h : c.toNat = n) : c = Char.ofNat n := h ▸ (Char.ofNat_toNat c).symm
  unfold escape
  split_ifs with hquote hslash hline hreturn htab hback hfeed hcontrol
  · subst hquote
    exact .short rfl
  · subst hslash
    exact .short rfl
  · subst hline
    exact .short rfl
  · subst hreturn
    exact .short rfl
  · subst htab
    exact .short rfl
  · exact .short (congrArg some (hcode hback).symm)
  · exact .short (congrArg some (hcode hfeed).symm)
  · have hunit := ReadsChar.unit (isUnit_control hcontrol) c.valid (r := r)
    rwa [Char.ofNat_toNat] at hunit
  · exact .plain (Nat.le_of_not_lt hcontrol) hquote hslash

theorem readsChars_escape (cs : Text) : readsChars cs (cs.flatMap escape ++ '"' :: r) r := by
  induction cs with
  | nil => rfl
  | cons c cs ih =>
    rw [List.flatMap_cons, List.append_assoc]
    exact ⟨_, readsChar_escape _ c, ih⟩

theorem quoted_string (cs : Text) : quoted cs (string cs ++ r) r :=
  ⟨_, rfl, by simpa using readsChars_escape r cs⟩

theorem head?_toDigits_ne_zero {n : Nat} (h : 0 < n) : (Nat.toDigits 10 n).head? ≠ some '0' := by
  induction n using Nat.strong_induction_on with
  | h n ih =>
    rw [Nat.toDigits_eq_if (by decide)]
    split
    · next hlt =>
      have hall : ∀ n < 10, 0 < n → [Nat.digitChar n].head? ≠ some '0' := by decide
      exact hall n hlt h
    · next hge =>
      rw [List.head?_append_of_ne_nil _ Nat.toDigits_ne_nil]
      exact ih (n / 10) (by omega) (by omega)

theorem numeral_ofNat (n : Nat) : numeral n (Text.ofNat n ++ r) r := by
  refine ⟨Text.ofNat n, Nat.toDigits_ne_nil, fun c => Nat.isDigit_of_mem_toDigits (by decide)
    (by decide), fun hzero => ?_, Nat.ofDigitChars_toDigits (by decide) (by decide), rfl⟩
  cases Nat.eq_zero_or_pos n with
  | inl h => rw [h]; rfl
  | inr h => exact absurd hzero (head?_toDigits_ne_zero h)

end Scalars

section Writers

/-- The text is the phrase, whatever follows. -/
def Writes (p : Phrase) (s : Text) : Prop := ∀ r, p (s ++ r) r

def Blank (s : Text) : Prop := ∀ c ∈ s, isSpace c = true

variable {p : Phrase} {ps : List Phrase} {s lead trail : Text} {ss : List Text}

theorem blank_nil : Blank [] := by simp [Blank]

theorem blank_newline (depth : Nat) : Blank (newline depth) := by
  intro c hc
  rcases List.mem_cons.1 hc with rfl | hc
  · rfl
  · rw [List.eq_of_mem_replicate hc]
    rfl

theorem Writes.padded (h : Writes p s) (hl : Blank lead) (ht : Blank trail) (r : Text) :
    padded p (lead ++ (s ++ (trail ++ r))) r :=
  ⟨_, _, skips_append hl _, h _, skips_append ht r⟩

/-- Texts of phrases, joined with commas, are their series: blanks may follow each comma and stand
at both ends. -/
theorem series_join (h : List.Forall₂ Writes ps ss) (hl : Blank lead) (ht : Blank trail)
    (r : Text) : series ps (lead ++ (Text.join (',' :: lead) ss ++ (trail ++ r))) r := by
  induction h with
  | nil =>
    have hblank : Blank (lead ++ trail) := List.forall_mem_append.2 ⟨hl, ht⟩
    simpa [series, Text.join] using skips_append hblank r
  | cons hp hps ih =>
    -- what comes before the comma is one item, what comes after it the rest with its blanks
    cases hps with
    | nil => simpa [series, Text.join] using hp.padded hl ht r
    | cons hq hqs =>
      refine ⟨_, ?_, ih⟩
      rw [Text.join_cons_cons]
      simpa using hp.padded hl blank_nil _

theorem writes_bracketed (opening closing : Char) (h : List.Forall₂ Writes ps ss)
    (hl : Blank lead) (ht : Blank trail) :
    Writes (bracketed opening closing (series ps))
      (opening :: lead ++ Text.join (',' :: lead) ss ++ trail ++ [closing]) := by
  intro r
  refine ⟨_, rfl, ?_⟩
  simpa using series_join h hl ht (closing :: r)

theorem writes_bracket (opening closing : Char) (depth : Nat) (h : List.Forall₂ Writes ps ss) :
    Writes (bracketed opening closing (series ps)) (bracket opening closing depth ss) := by
  cases h with
  | nil => exact writes_bracketed opening closing .nil blank_nil blank_nil
  | cons hp hps =>
    exact writes_bracketed opening closing (.cons hp hps) (blank_newline _) (blank_newline _)

theorem Writes.member (h : Writes p s) (name : Text) {blanks : Text} (hb : Blank blanks) :
    Writes (member name p) (string name ++ (':' :: blanks ++ s)) := by
  intro r
  have htext : string name ++ (':' :: blanks ++ s) ++ r
      = string name ++ ':' :: (blanks ++ (s ++ r)) := by simp
  rw [htext]
  exact ⟨_, _, _, quoted_string _ name, skips_refl _, skips_append hb _, h r⟩

theorem writes_boolean (b : Bool) : Writes (Reads (.bool b)) (boolean b) := by
  intro r
  cases b <;> rfl

theorem writes_compact (v : Json) : Writes (Reads v) (compact v) := by
  induction v using inductionOn with
  | null => exact fun r => rfl
  | bool b => exact writes_boolean b
  | num n => exact fun r => numeral_ofNat r n
  | str cs => exact fun r => quoted_string r cs
  | arr items ih =>
    have hitems : List.Forall₂ Writes (itemPhrases items) (compactItems items) := by
      induction items with
      | nil => exact .nil
      | cons item items ihs =>
        obtain ⟨hitem, hrest⟩ := List.forall_mem_cons.1 ih
        exact .cons hitem (ihs hrest)
    simpa [Reads, compact] using writes_bracketed '[' ']' hitems blank_nil blank_nil
  | obj fields ih =>
    have hfields : List.Forall₂ Writes (fieldPhrases fields) (compactFields fields) := by
      induction fields with
      | nil => exact .nil
      | cons field fields ihs =>
        obtain ⟨hfield, hrest⟩ := List.forall_mem_cons.1 ih
        exact .cons (hfield.member field.1 blank_nil) (ihs hrest)
    simpa [Reads, compact] using writes_bracketed '\x7b' '\x7d' hfields blank_nil blank_nil

theorem writes_indented (v : Json) (depth : Nat) : Writes (Reads v) (indented depth v) := by
  induction v using inductionOn generalizing depth with
  | null => exact fun r => rfl
  | bool b => exact writes_boolean b
  | num n => exact fun r => numeral_ofNat r n
  | str cs => exact fun r => quoted_string r cs
  | arr items ih =>
    apply writes_bracket
    induction items with
    | nil => exact .nil
    | cons item items ihs =>
      obtain ⟨hitem, hrest⟩ := List.forall_mem_cons.1 ih
      exact .cons (hitem (depth + 1)) (ihs hrest)
  | obj fields ih =>
    apply writes_bracket
    induction fields with
    | nil => exact .nil
    | cons field fields ihs =>
      obtain ⟨hfield, hrest⟩ := List.forall_mem_cons.1 ih
      refine .cons ?_ (ihs hrest)
      have hblank : Blank [' '] := by simp [Blank, isSpace]
      simpa using (hfield (depth + 1)).member field.1 hblank

theorem Writes.says_append {v : Json} (h : Writes (Reads v) s) (ht : Blank trail) :
    Says (s ++ trail) v := by
  simpa [Says] using h.padded blank_nil ht []

end Writers

theorem Says.iff_eq {s : Text} {v : Json} (h : Says s v) (w : Json) : Says s w ↔ w = v := by
  constructor
  · intro hw
    exact hw.unique h
  · rintro rfl
    exact h

theorem says_compact (v : Json) : Says (compact v) v := by
  simpa using (writes_compact v).says_append blank_nil

theorem says_indented (v : Json) : Says (indented 0 v ++ ['\n']) v :=
  (writes_indented v 0).says_append (by simp [Blank, isSpace])

theorem ofOption_injective : Function.Injective ofOption := by
  rintro (_ | s) (_ | s') h <;> cases h <;> rfl

theorem strings_injective : Function.Injective strings := by
  intro ss ss' h
  exact List.map_injective_iff.2 (fun s s' hs => Json.str.inj hs) (Json.arr.inj h)

end Json

section Mappings

theorem ParamKind.ofLabel?_label (kind : ParamKind) : ofLabel? kind.label = some kind := by
  cases kind <;> rfl

theorem ParamKind.label_injective : Function.Injective label := by
  intro kind kind' h
  have hlabel := ofLabel?_label kind
  rw [h, ofLabel?_label] at hlabel
  exact (Option.some.inj hlabel).symm

theorem Param.toJson_injective : Function.Injective toJson := by
  intro p p' h
  simp only [toJson, Json.obj.injEq, List.cons.injEq, Prod.mk.injEq, Json.str.injEq,
    Json.bool.injEq, Json.ofOption_injective.eq_iff, ParamKind.label_injective.eq_iff] at h
  cases p
  cases p'
  simp_all

theorem optionalField_append_inj {name name' : Text} (hne : name ≠ name') {s s' t t' : Option Text}
    (h : optionalField name s ++ optionalField name' t
      = optionalField name s' ++ optionalField name' t') : s = s' ∧ t = t' := by
  cases s <;> cases s' <;> cases t <;> cases t' <;> simp_all [optionalField]

theorem BodyField.toJson_injective : Function.Injective toJson := by
  intro f f' h
  simp only [toJson, Json.obj.injEq, List.cons_append, List.nil_append, List.cons.injEq,
    Prod.mk.injEq, Json.str.injEq, Json.ofOption_injective.eq_iff] at h
  obtain ⟨⟨-, hname⟩, ⟨-, htype⟩, hoptional⟩ := h
  obtain ⟨hgroup, hdescription⟩ := optionalField_append_inj (by decide) hoptional
  cases f
  cases f'
  simp_all

theorem Response.toJson_injective : Function.Injective toJson := by
  intro r r' h
  simp only [toJson, Json.obj.injEq, List.cons.injEq, Prod.mk.injEq, Json.num.injEq,
    Json.str.injEq, Json.arr.injEq, BodyField.toJson_injective.list_map.eq_iff] at h
  cases r
  cases r'
  simp_all

theorem Resource.toJson_injective : Function.Injective toJson := by
  intro r r' h
  simp only [toJson, Json.obj.injEq, List.cons.injEq, Prod.mk.injEq, Json.str.injEq,
    Json.bool.injEq, Json.arr.injEq, Json.ofOption_injective.eq_iff, Json.strings_injective.eq_iff,
    Param.toJson_injective.list_map.eq_iff, Response.toJson_injective.list_map.eq_iff] at h
  cases r
  cases r'
  simp_all

theorem Resources.entries_injective : Function.Injective entries := by
  rintro ⟨xs, index, h⟩ ⟨xs', index', h'⟩ heq
  obtain rfl : xs = xs' := heq
  have hindex : index = index' := by
    ext key slot
    exact (h key slot).trans (h' key slot).symm
  subst hindex
  rfl

namespace Document

theorem toJson_injective : Function.Injective toJson := by
  intro d d' h
  simp only [toJson, Json.obj.injEq, List.cons.injEq, Prod.mk.injEq, Json.str.injEq,
    Json.arr.injEq, Json.ofOption_injective.eq_iff, Resource.toJson_injective.list_map.eq_iff,
    Resources.entries_injective.eq_iff] at h
  cases d
  cases d'
  simp_all

theorem text_eq_iff {text : Json → Text} (h : ∀ v, Json.Says (text v) v) (d d' : Document) :
    text d.toJson = text d'.toJson ↔ d = d' := by
  constructor
  · intro heq
    have htext := h d.toJson
    rw [heq] at htext
    exact toJson_injective (htext.unique (h d'.toJson))
  · rintro rfl
    rfl

/-- The JSON text of a document, indented or compact, says the value of the document and nothing
else, and no other document has this text. -/
theorem json_text_lossless (d : Document) :
    (∀ v, Json.Says (Format.render .json d) v ↔ v = d.toJson) ∧
    (∀ v, Json.Says d.toJson.compact v ↔ v = d.toJson) ∧
    ∀ d', (Format.render .json d = Format.render .json d' ↔ d = d') ∧
      (d.toJson.compact = d'.toJson.compact ↔ d = d') := by
  refine ⟨(Json.says_indented _).iff_eq, (Json.says_compact _).iff_eq, fun d' => ⟨?_, ?_⟩⟩
  · exact text_eq_iff Json.says_indented d d'
  · exact text_eq_iff Json.says_compact d d'

end Document

end Mappings

end ApiNotes
