import ApiNotes.Json.Basic

/-! # The grammar of JSON

What a text says as JSON is stated without a reader: a phrase relates a text that starts with it to
the rest of the text. The main statement is that the grammar is unambiguous, so that a text says at
most one value. Numbers with a sign, a fraction or an exponent say nothing here, since the numbers
of a value are natural.
-/

namespace ApiNotes.Json

/-- What a text starts with: a relation between the text and what follows. -/
abbrev Phrase := Text → Text → Prop

section Grammar

def isSpace (c : Char) : Bool := [' ', '\t', '\n', '\r'].contains c

def Skips : Phrase := fun s r => ∃ blanks : Text, (∀ c ∈ blanks, isSpace c = true) ∧ s = blanks ++ r

def literal (word : Text) : Phrase := fun s r => s = word ++ r

/-- A number in decimal digits, without leading zeros. -/
def numeral (n : Nat) : Phrase := fun s r =>
  ∃ digits : Text, digits ≠ [] ∧ (∀ c ∈ digits, c.isDigit = true) ∧
    (digits.head? = some '0' → digits = ['0']) ∧ Nat.ofDigitChars 10 digits 0 = n ∧ s = digits ++ r

def shortEscape? : Char → Option Char
  | '"' => some '"'
  | '\\' => some '\\'
  | '/' => some '/'
  | 'b' => some (Char.ofNat 0x8)
  | 'f' => some (Char.ofNat 0xC)
  | 'n' => some '\n'
  | 'r' => some '\r'
  | 't' => some '\t'
  | _ => none

/-- The number that four hexadecimal digits write. -/
def IsUnit (a b c d : Char) (n : Nat) : Prop := Text.digitsValue? 16 [a, b, c, d] = some n

/-- One character of a string: as it is, by a letter, by its code point, or by the two halves of
its UTF-16 form. -/
inductive ReadsChar : Char → Phrase where
  | plain {c : Char} {r : Text} : 0x20 ≤ c.toNat → c ≠ '"' → c ≠ '\\' → ReadsChar c (c :: r) r
  | short {e c : Char} {r : Text} : shortEscape? e = some c → ReadsChar c ('\\' :: e :: r) r
  | unit {a b c d : Char} {n : Nat} {r : Text} : IsUnit a b c d n → n.isValidChar →
      ReadsChar (Char.ofNat n) ('\\' :: 'u' :: a :: b :: c :: d :: r) r
  | pair {a b c d a' b' c' d' : Char} {high low : Nat} {r : Text} :
      IsUnit a b c d high → 0xD800 ≤ high → high < 0xDC00 →
      IsUnit a' b' c' d' low → 0xDC00 ≤ low → low < 0xE000 →
      ReadsChar (Char.ofNat (0x10000 + (high - 0xD800) * 0x400 + (low - 0xDC00)))
        ('\\' :: 'u' :: a :: b :: c :: d :: '\\' :: 'u' :: a' :: b' :: c' :: d' :: r) r

def readsChars : Text → Phrase
  | [] => fun s r => s = '"' :: r
  | c :: cs => fun s r => ∃ t, ReadsChar c s t ∧ readsChars cs t r

def quoted (cs : Text) : Phrase := fun s r => ∃ t, s = '"' :: t ∧ readsChars cs t r

def padded (p : Phrase) : Phrase := fun s r => ∃ t u, Skips s t ∧ p t u ∧ Skips u r

/-- Phrases with commas between them and blanks around each. -/
def series : List Phrase → Phrase
  | [] => Skips
  | [p] => padded p
  | p :: q :: ps => fun s r => ∃ t, padded p s (',' :: t) ∧ series (q :: ps) t r

def bracketed (opening closing : Char) (p : Phrase) : Phrase := fun s r =>
  ∃ t, s = opening :: t ∧ p t (closing :: r)

def member (name : Text) (value : Phrase) : Phrase := fun s r =>
  ∃ t u w, quoted name s t ∧ Skips t (':' :: u) ∧ Skips u w ∧ value w r

mutual

/-- The text starts with a value. -/
def Reads : Json → Phrase
  | .null => literal "null".toList
  | .bool true => literal "true".toList
  | .bool false => literal "false".toList
  | .num n => numeral n
  | .str s => quoted s
  | .arr items => bracketed '[' ']' (series (itemPhrases items))
  | .obj fields => bracketed '\x7b' '\x7d' (series (fieldPhrases fields))

def itemPhrases : List Json → List Phrase
  | [] => []
  | item :: items => Reads item :: itemPhrases items

def fieldPhrases : List (Text × Json) → List Phrase
  | [] => []
  | (name, value) :: fields => member name (Reads value) :: fieldPhrases fields

end

/-- The text is a value, with blanks around it. -/
def Says (s : Text) (v : Json) : Prop := padded (Reads v) s []

end Grammar

@[elab_as_elim]
theorem inductionOn {P : Json → Prop} (v : Json) (null : P .null) (bool : ∀ b, P (.bool b))
    (num : ∀ n, P (.num n)) (str : ∀ s, P (.str s))
    (arr : ∀ items, (∀ item ∈ items, P item) → P (.arr items))
    (obj : ∀ fields, (∀ field ∈ fields, P field.2) → P (.obj fields)) : P v :=
  @Json.rec P (fun items => ∀ item ∈ items, P item) (fun fields => ∀ field ∈ fields, P field.2)
    (fun field => P field.2) null bool num str arr obj (by simp)
    (fun _ _ hitem hitems => List.forall_mem_cons.2 ⟨hitem, hitems⟩) (by simp)
    (fun _ _ hfield hfields => List.forall_mem_cons.2 ⟨hfield, hfields⟩)
    (fun _ _ hvalue => hvalue) v

/-- The first character of the text, if there is one, does not satisfy `p`. -/
def Free (p : Char → Bool) (s : Text) : Prop := ∀ c, s.head? = some c → p c = false

section Leaves

variable {s t r r' : Text}

theorem free_cons {p : Char → Bool} {c : Char} (h : p c = false) (s : Text) : Free p (c :: s) := by
  rintro d ⟨⟩
  exact h

theorem Free.dropWhile_append {p : Char → Bool} {start : Text} (hr : Free p r)
    (h : ∀ c ∈ start, p c = true) : (start ++ r).dropWhile p = r := by
  rw [List.dropWhile_append_of_pos h]
  cases r with
  | nil => rfl
  | cons c r => exact List.dropWhile_cons_of_neg (by simp [hr c rfl])

theorem skips_refl (s : Text) : Skips s s := ⟨[], by simp⟩

theorem skips_append {blanks : Text} (h : ∀ c ∈ blanks, isSpace c = true) (r : Text) :
    Skips (blanks ++ r) r := ⟨blanks, h, rfl⟩

theorem Skips.unique (h : Skips s r) (h' : Skips s r') (hr : Free isSpace r)
    (hr' : Free isSpace r') : r = r' := by
  obtain ⟨blanks, hb, rfl⟩ := h
  obtain ⟨blanks', hb', heq⟩ := h'
  rw [← hr.dropWhile_append hb, heq, hr'.dropWhile_append hb']

theorem not_isDigit_of_isSpace {c : Char} (h : isSpace c = true) : c.isDigit = false := by
  simp only [isSpace, List.contains_eq_mem, List.mem_cons, List.not_mem_nil, or_false,
    decide_eq_true_eq] at h
  rcases h with rfl | rfl | rfl | rfl <;> rfl

theorem Skips.free_isDigit (h : Skips s r) (hr : Free Char.isDigit r) : Free Char.isDigit s := by
  obtain ⟨blanks, hb, rfl⟩ := h
  cases blanks with
  | nil => exact hr
  | cons c blanks => exact free_cons (not_isDigit_of_isSpace (hb c List.mem_cons_self)) _

theorem numeral_unique {n m : Nat} (h : numeral n s r) (h' : numeral m s r')
    (hr : Free Char.isDigit r) (hr' : Free Char.isDigit r') : n = m ∧ r = r' := by
  obtain ⟨digits, -, hd, -, rfl, rfl⟩ := h
  obtain ⟨digits', -, hd', -, rfl, heq⟩ := h'
  have hrest : r = r' := by
    rw [← hr.dropWhile_append hd, heq, hr'.dropWhile_append hd']
  subst hrest
  rw [List.append_cancel_right heq]
  exact ⟨rfl, rfl⟩

theorem ReadsChar.head_ne_quote {c : Char} (h : ReadsChar c s r) : s.head? ≠ some '"' := by
  cases h with
  | plain _ hq _ => simpa using hq
  | short | unit | pair => simp

theorem ReadsChar.unique {c d : Char} (h : ReadsChar c s r) (h' : ReadsChar d s r') :
    c = d ∧ r = r' := by
  cases h with
  | plain hc hq hb =>
    cases h' with
    | plain => exact ⟨rfl, rfl⟩
    | short | unit | pair => exact absurd rfl hb
  | short he =>
    cases h' with
    | plain _ _ hb => exact absurd rfl hb
    | short he' => exact ⟨Option.some.inj (he.symm.trans he'), rfl⟩
    | unit | pair => cases he
  | unit hn hv =>
    cases h' with
    | plain _ _ hb => exact absurd rfl hb
    | short he => cases he
    | unit hn' =>
      rw [Option.some.inj (hn.symm.trans hn')]
      exact ⟨rfl, rfl⟩
    | pair hh hge hlt =>
      obtain rfl := Option.some.inj (hn.symm.trans hh)
      simp only [Nat.isValidChar] at hv
      omega
  | pair hh hge hlt hl =>
    cases h' with
    | plain _ _ hb => exact absurd rfl hb
    | short he => cases he
    | unit hn hv =>
      obtain rfl := Option.some.inj (hn.symm.trans hh)
      simp only [Nat.isValidChar] at hv
      omega
    | pair hh' _ _ hl' =>
      rw [Option.some.inj (hh.symm.trans hh'), Option.some.inj (hl.symm.trans hl')]
      exact ⟨rfl, rfl⟩

theorem readsChars_unique {cs ds : Text} (h : readsChars cs s r) (h' : readsChars ds s r') :
    cs = ds ∧ r = r' := by
  induction cs generalizing ds s with
  | nil =>
    subst h
    cases ds with
    | nil => exact ⟨rfl, (List.cons.inj h').2⟩
    | cons d ds =>
      obtain ⟨t, hd, -⟩ := h'
      exact absurd rfl hd.head_ne_quote
  | cons c cs ih =>
    obtain ⟨t, hc, hcs⟩ := h
    cases ds with
    | nil =>
      subst h'
      exact absurd rfl hc.head_ne_quote
    | cons d ds =>
      obtain ⟨t', hd, hds⟩ := h'
      obtain ⟨rfl, rfl⟩ := hc.unique hd
      obtain ⟨rfl, rfl⟩ := ih hcs hds
      exact ⟨rfl, rfl⟩

theorem quoted_unique {cs ds : Text} (h : quoted cs s r) (h' : quoted ds s r') :
    cs = ds ∧ r = r' := by
  obtain ⟨t, rfl, hcs⟩ := h
  obtain ⟨t', heq, hds⟩ := h'
  obtain rfl := (List.cons.inj heq).2
  exact readsChars_unique hcs hds

end Leaves

section Unambiguous

/-- Where a text starts with either phrase, and no digit follows, what they say is the same and so
is the rest. Before a digit a numeral could end in more than one place. -/
def Determines (same : Prop) (p q : Phrase) : Prop :=
  ∀ ⦃s r r' : Text⦄, p s r → q s r' → Free Char.isDigit r → Free Char.isDigit r' → same ∧ r = r'

/-- The phrase starts with a character that neither blanks nor the end of a series start with. -/
def Solid (p : Phrase) : Prop :=
  ∀ ⦃s r : Text⦄, p s r → ∃ c t, s = c :: t ∧ isSpace c = false ∧ c ≠ ']' ∧ c ≠ '\x7d'

variable {same same' : Prop} {p q : Phrase} {ps qs : List Phrase} {s r r' : Text}

theorem Solid.free_isSpace (hp : Solid p) (h : p s r) : Free isSpace s := by
  obtain ⟨c, t, rfl, hc, -⟩ := hp h
  exact free_cons hc t

theorem Determines.of_padded (h : Determines same p q) (hp : Solid p) (hq : Solid q)
    (hs : padded p s r) (hs' : padded q s r') (hr : Free isSpace r) (hr' : Free isSpace r')
    (hd : Free Char.isDigit r) (hd' : Free Char.isDigit r') : same ∧ r = r' := by
  obtain ⟨t, u, hst, htu, hur⟩ := hs
  obtain ⟨t', u', hst', htu', hur'⟩ := hs'
  obtain rfl := hst.unique hst' (hp.free_isSpace htu) (hq.free_isSpace htu')
  obtain ⟨hsame, rfl⟩ := h htu htu' (hur.free_isDigit hd) (hur'.free_isDigit hd')
  exact ⟨hsame, hur.unique hur' hr hr'⟩

theorem solid_quoted (cs : Text) : Solid (quoted cs) := by
  rintro s r ⟨t, rfl, -⟩
  exact ⟨_, t, rfl, by decide, by decide, by decide⟩

theorem solid_member (name : Text) (p : Phrase) : Solid (member name p) := by
  rintro s r ⟨t, u, w, hname, -⟩
  exact solid_quoted name hname

theorem Determines.member (h : Determines same p q) (hp : Solid p) (hq : Solid q)
    (name name' : Text) : Determines (name = name' ∧ same) (member name p) (member name' q) := by
  intro s r r' hs hs' hd hd'
  obtain ⟨t, u, w, hname, hcolon, hskip, hvalue⟩ := hs
  obtain ⟨t', u', w', hname', hcolon', hskip', hvalue'⟩ := hs'
  obtain ⟨rfl, rfl⟩ := quoted_unique hname hname'
  have hfree : Free isSpace (':' :: u) := free_cons (by decide) u
  have hfree' : Free isSpace (':' :: u') := free_cons (by decide) u'
  obtain rfl := (List.cons.inj (hcolon.unique hcolon' hfree hfree')).2
  obtain rfl := hskip.unique hskip' (hp.free_isSpace hvalue) (hq.free_isSpace hvalue')
  obtain ⟨hsame, rfl⟩ := h hvalue hvalue' hd hd'
  exact ⟨⟨rfl, hsame⟩, rfl⟩

def SeriesDetermines (same : Prop) (ps qs : List Phrase) : Prop :=
  ∀ ⦃closing : Char⦄ ⦃s r r' : Text⦄, closing = ']' ∨ closing = '\x7d' →
    series ps s (closing :: r) → series qs s (closing :: r') → same ∧ r = r'

theorem free_of_delimiter {c : Char} (h : c = ',' ∨ c = ']' ∨ c = '\x7d') (s : Text) :
    Free isSpace (c :: s) ∧ Free Char.isDigit (c :: s) := by
  rcases h with rfl | rfl | rfl <;> exact ⟨free_cons (by decide) s, free_cons (by decide) s⟩

theorem Determines.of_padded_delimited (h : Determines same p q) (hp : Solid p) (hq : Solid q)
    {c c' : Char} (hs : padded p s (c :: r)) (hs' : padded q s (c' :: r'))
    (hc : c = ',' ∨ c = ']' ∨ c = '\x7d') (hc' : c' = ',' ∨ c' = ']' ∨ c' = '\x7d') :
    same ∧ c = c' ∧ r = r' := by
  obtain ⟨hspace, hdigit⟩ := free_of_delimiter hc r
  obtain ⟨hspace', hdigit'⟩ := free_of_delimiter hc' r'
  obtain ⟨hsame, heq⟩ := h.of_padded hp hq hs hs' hspace hspace' hdigit hdigit'
  exact ⟨hsame, List.cons.inj heq⟩

theorem SeriesDetermines.symm (h : SeriesDetermines same ps qs) : SeriesDetermines same qs ps := by
  intro closing s r r' hc hs hs'
  obtain ⟨hsame, rfl⟩ := h hc hs' hs
  exact ⟨hsame, rfl⟩

theorem SeriesDetermines.imp (h : SeriesDetermines same ps qs) (himp : same → same') :
    SeriesDetermines same' ps qs := by
  intro closing s r r' hc hs hs'
  obtain ⟨hsame, heq⟩ := h hc hs hs'
  exact ⟨himp hsame, heq⟩

theorem seriesDetermines_nil : SeriesDetermines True [] [] := by
  intro closing s r r' hc hs hs'
  have hfree := fun t => (free_of_delimiter (.inr hc) t).1
  exact ⟨trivial, (List.cons.inj (Skips.unique hs hs' (hfree r) (hfree r'))).2⟩

theorem padded_of_series_cons (h : series (p :: ps) s r) : ∃ t, padded p s t := by
  cases ps with
  | nil => exact ⟨r, h⟩
  | cons q ps =>
    obtain ⟨t, ht, -⟩ := h
    exact ⟨_, ht⟩

theorem Solid.seriesDetermines_nil_cons (hq : Solid q) (qs : List Phrase) :
    SeriesDetermines False [] (q :: qs) := by
  intro closing s r r' hc hs hs'
  obtain ⟨t, u, v, hsu, huv, -⟩ := padded_of_series_cons hs'
  have heq := Skips.unique hs hsu (free_of_delimiter (.inr hc) r).1 (hq.free_isSpace huv)
  obtain ⟨c, w, rfl, -, hbracket, hbrace⟩ := hq huv
  obtain rfl := (List.cons.inj heq).1
  exact absurd hc (not_or.2 ⟨hbracket, hbrace⟩)

theorem SeriesDetermines.cons (h : Determines same p q) (hp : Solid p) (hq : Solid q)
    (htail : SeriesDetermines same' ps qs) :
    SeriesDetermines (same ∧ same') (p :: ps) (q :: qs) := by
  intro closing s r r' hc hs hs'
  have hcomma : closing ≠ ',' := by rcases hc with rfl | rfl <;> decide
  cases ps with
  | nil =>
    cases qs with
    | nil =>
      obtain ⟨hsame, -, rfl⟩ := h.of_padded_delimited hp hq hs hs' (.inr hc) (.inr hc)
      -- nothing is left, which both tails say at the closing bracket
      exact ⟨⟨hsame, (htail hc (skips_refl _) (skips_refl (closing :: r))).1⟩, rfl⟩
    | cons q' qs =>
      obtain ⟨t, ht, -⟩ := hs'
      exact absurd (h.of_padded_delimited hp hq hs ht (.inr hc) (.inl rfl)).2.1 hcomma
  | cons p' ps =>
    obtain ⟨t, ht, hrest⟩ := hs
    cases qs with
    | nil => exact absurd (h.of_padded_delimited hp hq ht hs' (.inl rfl) (.inr hc)).2.1.symm hcomma
    | cons q' qs =>
      obtain ⟨t', ht', hrest'⟩ := hs'
      obtain ⟨hsame, -, rfl⟩ := h.of_padded_delimited hp hq ht ht' (.inl rfl) (.inl rfl)
      obtain ⟨hsame', rfl⟩ := htail hc hrest hrest'
      exact ⟨⟨hsame, hsame'⟩, rfl⟩

theorem seriesDetermines_map {α : Type} {phrase : α → Phrase} (hsolid : ∀ a, Solid (phrase a))
    (as : List α) (h : ∀ a ∈ as, ∀ b, Determines (a = b) (phrase a) (phrase b)) (bs : List α) :
    SeriesDetermines (as = bs) (as.map phrase) (bs.map phrase) := by
  induction as generalizing bs with
  | nil =>
    cases bs with
    | nil => exact seriesDetermines_nil.imp fun _ => rfl
    | cons b bs => exact ((hsolid b).seriesDetermines_nil_cons _).imp False.elim
  | cons a as ih =>
    cases bs with
    | nil => exact ((hsolid a).seriesDetermines_nil_cons _).symm.imp False.elim
    | cons b bs =>
      have htail := ih (fun a' ha' => h a' (List.mem_cons_of_mem a ha')) bs
      have hhead := h a List.mem_cons_self b
      refine (htail.cons hhead (hsolid a) (hsolid b)).imp ?_
      rintro ⟨rfl, rfl⟩
      rfl

theorem SeriesDetermines.bracketed (h : SeriesDetermines same ps qs) {opening closing : Char}
    (hc : closing = ']' ∨ closing = '\x7d') :
    Determines same (bracketed opening closing (series ps))
      (bracketed opening closing (series qs)) := by
  rintro s r r' ⟨t, rfl, ht⟩ ⟨t', heq, ht'⟩ - -
  obtain rfl := (List.cons.inj heq).2
  exact h hc ht ht'

end Unambiguous

section Values

inductive Kind where
  | null | bool | num | str | arr | obj

def kind : Json → Kind
  | .null => .null
  | .bool _ => .bool
  | .num _ => .num
  | .str _ => .str
  | .arr _ => .arr
  | .obj _ => .obj

def kindAt? (c : Char) : Option Kind :=
  if c.isDigit then some .num
  else match c with
    | 'n' => some .null
    | 't' | 'f' => some .bool
    | '"' => some .str
    | '[' => some .arr
    | '\x7b' => some .obj
    | _ => none

variable {v w : Json} {s r r' : Text}

theorem Reads.head (h : Reads v s r) : ∃ c t, s = c :: t ∧ kindAt? c = some v.kind := by
  cases v with
  | null => exact ⟨_, _, h, rfl⟩
  | bool b => cases b <;> exact ⟨_, _, h, rfl⟩
  | num n =>
    obtain ⟨digits, hne, hdigits, -, -, rfl⟩ := h
    obtain ⟨c, digits, rfl⟩ := List.exists_cons_of_ne_nil hne
    exact ⟨c, digits ++ r, rfl, if_pos (hdigits c List.mem_cons_self)⟩
  | str cs =>
    obtain ⟨t, rfl, -⟩ := h
    exact ⟨_, t, rfl, rfl⟩
  | arr items | obj fields =>
    obtain ⟨t, rfl, -⟩ := h
    exact ⟨_, t, rfl, rfl⟩

theorem Reads.kind_eq (h : Reads v s r) (h' : Reads w s r') : v.kind = w.kind := by
  obtain ⟨c, t, rfl, hc⟩ := Reads.head h
  obtain ⟨c', t', heq, hc'⟩ := Reads.head h'
  obtain rfl := (List.cons.inj heq).1
  exact Option.some.inj (hc.symm.trans hc')

theorem kindAt?_eq_none_of_isSpace {c : Char} (h : isSpace c = true) : kindAt? c = none := by
  simp only [isSpace, List.contains_eq_mem, List.mem_cons, List.not_mem_nil, or_false,
    decide_eq_true_eq] at h
  rcases h with rfl | rfl | rfl | rfl <;> rfl

theorem solid_reads (v : Json) : Solid (Reads v) := by
  intro s r h
  obtain ⟨c, t, rfl, hc⟩ := Reads.head h
  refine ⟨c, t, rfl, ?_, ?_, ?_⟩
  · cases hspace : isSpace c with
    | false => rfl
    | true => simp [kindAt?_eq_none_of_isSpace hspace] at hc
  · rintro rfl
    cases hc
  · rintro rfl
    cases hc

theorem itemPhrases_eq_map (items : List Json) : itemPhrases items = items.map Reads := by
  induction items with
  | nil => rfl
  | cons item items ih => exact congrArg (Reads item :: ·) ih

theorem fieldPhrases_eq_map (fields : List (Text × Json)) :
    fieldPhrases fields = fields.map fun field => member field.1 (Reads field.2) := by
  induction fields with
  | nil => rfl
  | cons field fields ih => exact congrArg (member field.1 (Reads field.2) :: ·) ih

/-- A text that no digit follows starts with at most one value, and in one way. -/
theorem reads_determines (v w : Json) : Determines (v = w) (Reads v) (Reads w) := by
  induction v using inductionOn generalizing w with
  | null =>
    intro s r r' h h' _ _
    cases w with
    | null => exact ⟨rfl, List.append_cancel_left (h.symm.trans h')⟩
    | bool | num | str | arr | obj => cases Reads.kind_eq h h'
  | bool b =>
    intro s r r' h h' _ _
    cases w with
    | bool b' =>
      cases b <;> cases b' <;> cases h <;> cases h' <;> exact ⟨rfl, rfl⟩
    | null | num | str | arr | obj => cases Reads.kind_eq h h'
  | num n =>
    intro s r r' h h' hd hd'
    cases w with
    | num m =>
      obtain ⟨rfl, rfl⟩ := numeral_unique h h' hd hd'
      exact ⟨rfl, rfl⟩
    | null | bool | str | arr | obj => cases Reads.kind_eq h h'
  | str cs =>
    intro s r r' h h' _ _
    cases w with
    | str ds =>
      obtain ⟨rfl, rfl⟩ := quoted_unique h h'
      exact ⟨rfl, rfl⟩
    | null | bool | num | arr | obj => cases Reads.kind_eq h h'
  | arr items ih =>
    intro s r r' h h' hd hd'
    cases w with
    | arr items' =>
      simp only [Reads, itemPhrases_eq_map] at h h'
      have hitems := seriesDetermines_map solid_reads items ih items'
      obtain ⟨rfl, rfl⟩ := hitems.bracketed (.inl rfl) h h' hd hd'
      exact ⟨rfl, rfl⟩
    | null | bool | num | str | obj => cases Reads.kind_eq h h'
  | obj fields ih =>
    intro s r r' h h' hd hd'
    cases w with
    | obj fields' =>
      simp only [Reads, fieldPhrases_eq_map] at h h'
      have hfield : ∀ field ∈ fields, ∀ field', Determines (field = field')
          (member field.1 (Reads field.2)) (member field'.1 (Reads field'.2)) := by
        rintro ⟨name, v⟩ hmem ⟨name', w⟩
        rw [Prod.mk.injEq]
        exact (ih _ hmem w).member (solid_reads v) (solid_reads w) name name'
      have hfields := seriesDetermines_map (fun _ => solid_member _ _) fields hfield fields'
      obtain ⟨rfl, rfl⟩ := hfields.bracketed (.inr rfl) h h' hd hd'
      exact ⟨rfl, rfl⟩
    | null | bool | num | str | arr => cases Reads.kind_eq h h'

/-- A text says at most one value. -/
theorem Says.unique (h : Says s v) (h' : Says s w) : v = w := by
  have hfree (p : Char → Bool) : Free p [] := by rintro c ⟨⟩
  exact ((reads_determines v w).of_padded (solid_reads v) (solid_reads w) h h' (hfree _) (hfree _)
    (hfree _) (hfree _)).1

end Values

end ApiNotes.Json
