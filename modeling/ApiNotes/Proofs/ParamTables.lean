import Mathlib.Algebra.GroupWithZero.Nat
import Mathlib.Data.List.Perm.Basic
import ApiNotes.Document.Markdown
import ApiNotes.Proofs.Canonical

/-! # Tables of parameters

The section of a resource has the tables of its parameters between two parts that do not depend on
them: kind by kind, a line for each parameter. Bars in a description are escaped, and those in a
name, a type or a default value are not. So a row has its five cells unless one of these has a bar
of its own that does not follow a backslash.
-/

namespace ApiNotes.Markdown

open Text

/-- The bars of a text that do not come right after a backslash; `escaped` says that the text as a
whole does. -/
def freeBars (escaped : Bool) : Text → Nat
  | [] => 0
  | c :: s => (if c = '|' ∧ escaped = false then 1 else 0) + freeBars (c == '\\') s

/-- The texts of a parameter that go into its row as they are. -/
def verbatim (p : Param) : List Text := p.name :: (p.type.toList ++ p.default.toList)

def tableLines (kind : ParamKind) : List Param → List Text
  | [] => []
  | params =>
    ["#### ".toList ++ sectionTitle kind, []] ++ tableHead ++ params.map paramRow ++ [[]]

section Bars

variable {escaped : Bool} {c : Char}

theorem freeBars_append_cons (hbar : c ≠ '|') (hslash : c ≠ '\\') (s t : Text) :
    freeBars escaped (s ++ c :: t) = freeBars escaped s + freeBars false t := by
  induction s generalizing escaped with
  | nil => simp [freeBars, hbar, beq_false_of_ne hslash]
  | cons d s ih =>
    rw [List.cons_append, freeBars, freeBars, ih]
    omega

theorem freeBars_codeSpan (s : Text) : freeBars escaped (codeSpan s) = freeBars false s := by
  have hspan : codeSpan s = [] ++ '`' :: (s ++ '`' :: []) := rfl
  rw [hspan, freeBars_append_cons (by decide) (by decide),
    freeBars_append_cons (by decide) (by decide)]
  simp [freeBars]

theorem freeBars_cellText (s : Text) : freeBars escaped (cellText s) = 0 := by
  unfold cellText replace
  induction s generalizing escaped with
  | nil => rfl
  | cons c s ih =>
    rw [List.flatMap_cons]
    split
    · simp [freeBars, ih]
    · next hc => simp [freeBars, hc, ih]

theorem freeBars_cells {cells : List Text} (hne : cells ≠ []) :
    freeBars false (join " | ".toList cells ++ " |".toList) =
      cells.length + (cells.map (freeBars false)).sum := by
  induction cells with
  | nil => exact absurd rfl hne
  | cons cell cells ih =>
    have hbar : ∀ t : Text, freeBars false (cell ++ ' ' :: '|' :: t) =
        freeBars false cell + (1 + freeBars false t) := by
      intro t
      rw [freeBars_append_cons (by decide) (by decide)]
      rfl
    cases cells with
    | nil =>
      have hrow : join " | ".toList [cell] ++ " |".toList = cell ++ ' ' :: '|' :: [] := by
        simp [join]
      rw [hrow, hbar]
      simp [freeBars, Nat.add_comm]
    | cons cell' cells =>
      have hrow : join " | ".toList (cell :: cell' :: cells) ++ " |".toList =
          cell ++ ' ' :: '|' :: ([] ++ ' ' :: (join " | ".toList (cell' :: cells) ++
            " |".toList)) := by
        rw [join_cons_cons]
        simp
      rw [hrow, hbar, freeBars_append_cons (by decide) (by decide), ih (List.cons_ne_nil _ _)]
      simp only [freeBars, List.length_cons, List.map_cons, List.sum_cons]
      omega

theorem freeBars_tableRow {cells : List Text} (hne : cells ≠ []) :
    freeBars false (tableRow cells) = cells.length + 1 + (cells.map (freeBars false)).sum := by
  have hrow : tableRow cells =
      '|' :: ([] ++ ' ' :: (join " | ".toList cells ++ " |".toList)) := by
    simp [tableRow]
  rw [hrow, freeBars, freeBars_append_cons (by decide) (by decide), freeBars_cells hne]
  simp only [freeBars, and_self, ↓reduceIte]
  omega

theorem freeBars_optional (s : Option Text) :
    freeBars false ((s.map codeSpan).getD []) = (s.toList.map (freeBars false)).sum := by
  cases s with
  | none => rfl
  | some s => simp [freeBars_codeSpan]

theorem freeBars_paramRow (p : Param) :
    freeBars false (paramRow p) = 6 + ((verbatim p).map (freeBars false)).sum := by
  have hrequired : freeBars false (if p.required then "yes".toList else "no".toList) = 0 := by
    split <;> decide
  rw [paramRow, freeBars_tableRow (List.cons_ne_nil _ _)]
  simp only [verbatim, List.length_cons, List.length_nil, List.map_cons, List.map_nil,
    List.sum_cons, List.sum_nil, List.map_append, List.sum_append, freeBars_codeSpan,
    freeBars_optional, freeBars_cellText, hrequired]
  omega

end Bars

section Lines

variable {r : Resource} {p : Param}

theorem newline_not_mem_codeSpan {s : Text} (h : '\n' ∉ s) : '\n' ∉ codeSpan s := by
  simp [codeSpan, h]

theorem newline_not_mem_cellText {s : Text} (h : '\n' ∉ s) : '\n' ∉ cellText s := by
  unfold cellText replace
  rw [List.mem_flatMap]
  rintro ⟨c, hc, hn⟩
  split at hn
  · revert hn
    decide
  · rw [List.mem_singleton] at hn
    exact h (hn ▸ hc)

theorem newline_not_mem_tableRow {cells : List Text} (h : ∀ cell ∈ cells, '\n' ∉ cell) :
    '\n' ∉ tableRow cells := by
  intro hn
  simp only [tableRow, List.mem_append] at hn
  rcases hn with (hn | hn) | hn
  · revert hn
    decide
  · rcases mem_join hn with hn | ⟨cell, hm, hn⟩
    · revert hn
      decide
    · exact h cell hm hn
  · revert hn
    decide

theorem newline_not_mem_paramRow (h : p.Canonical) : '\n' ∉ paramRow p := by
  have hoptional : ∀ s : Option Text, (∀ t, s = some t → t ≠ [] ∧ IsLine t) →
      '\n' ∉ (s.map codeSpan).getD [] := by
    intro s hs
    cases s with
    | none => exact List.not_mem_nil
    | some t => exact newline_not_mem_codeSpan (hs t rfl).2.newline_not_mem
  refine newline_not_mem_tableRow ?_
  simp only [List.forall_mem_cons]
  refine ⟨newline_not_mem_codeSpan h.name_isLine.newline_not_mem, hoptional _ h.type, ?_,
    hoptional _ h.default, newline_not_mem_cellText h.description.newline_not_mem, nofun⟩
  split <;> decide

theorem newline_not_mem_sectionTitle (kind : ParamKind) :
    '\n' ∉ "#### ".toList ++ sectionTitle kind := by
  cases kind <;> decide

theorem flatMap_split_paramSection (h : ∀ p ∈ r.params, p.Canonical) (kind : ParamKind) :
    (paramSection r kind).flatMap (split '\n') = tableLines kind (r.paramsOf kind) := by
  have hrows : ∀ row ∈ (r.paramsOf kind).map paramRow, '\n' ∉ row := by
    intro row hrow
    obtain ⟨p, hp, rfl⟩ := List.mem_map.1 hrow
    exact newline_not_mem_paramRow (h p (List.mem_of_mem_filter hp))
  unfold paramSection
  cases hparams : r.paramsOf kind with
  | nil => rfl
  | cons p params =>
    rw [hparams] at hrows
    have hlines : ∀ line ∈ tableHead ++ ((p :: params).map paramRow ++ [[]]), '\n' ∉ line := by
      simp only [List.forall_mem_append]
      exact ⟨by decide, hrows, by decide⟩
    dsimp only [tableLines]
    rw [List.append_assoc, List.cons_append, List.flatMap_cons, flatMap_split_of_not_mem hlines,
      split_append, split_of_not_mem (newline_not_mem_sectionTitle kind), List.append_assoc]
    rfl

theorem perm_flatMap_kind (params : List Param) :
    (ParamKind.all.flatMap fun kind => params.filter fun p => p.kind = kind).Perm params := by
  rw [List.perm_iff_count]
  intro p
  have hkind : ∀ kind, (params.filter fun p => p.kind = kind).count p =
      if p.kind = kind then params.count p else 0 := by
    intro kind
    split
    · next h => exact List.count_filter (by simpa using h)
    · next h =>
      rw [List.count_eq_zero]
      intro hm
      exact h (by simpa using (List.mem_filter.1 hm).2)
  simp only [ParamKind.all, List.flatMap_cons, List.flatMap_nil, List.append_nil,
    List.count_append, hkind]
  cases p.kind <;> simp

def opening (r : Resource) : List Text :=
  ("### ".toList ++ heading r ++ ['\n']) ::
    (if r.displayName.isEmpty then [] else ["**".toList ++ r.displayName ++ "**\n".toList]) ++
    deprecation r ++ badges r ++ description r

theorem split_resourceSection (h : ∀ p ∈ r.params, p.Canonical) :
    split '\n' (resourceSection r) =
      (opening r).flatMap (split '\n') ++
        ParamKind.all.flatMap (fun kind => tableLines kind (r.paramsOf kind)) ++
        (responseSection r).flatMap (split '\n') := by
  have hlines : resourceLines r =
      opening r ++ ParamKind.all.flatMap (paramSection r) ++ responseSection r := rfl
  have hne : resourceLines r ≠ [] := by simp [hlines, opening]
  rw [resourceSection, split_join_flatMap hne, hlines, List.flatMap_append, List.flatMap_append,
    List.flatMap_assoc]
  simp only [flatMap_split_paramSection h]

end Lines

/-- The tables of the parameters stand between lines that do not depend on them, kind by kind and
each parameter on a line of its own. A row has six bars between its cells, and exactly these if
neither the name nor the type nor the default value brings one in. -/
theorem readBlock_param_tables {table : Definitions} {policy : Policy} {body : Text} {r : Resource}
    (h : (readBlock table policy body).outcome = .ok (some r)) :
    (∃ before after,
      split '\n' (resourceSection { r with params := [] }) = before ++ after ∧
      split '\n' (resourceSection r) =
        before ++ ParamKind.all.flatMap
          (fun kind => tableLines kind (r.params.filter fun p => p.kind = kind)) ++ after) ∧
    (ParamKind.all.flatMap fun kind => r.params.filter fun p => p.kind = kind).Perm r.params ∧
    ∀ p ∈ r.params,
      freeBars false (paramRow p) = 6 + ((verbatim p).map (freeBars false)).sum ∧
        (freeBars false (paramRow p) = 6 ↔ ∀ s ∈ verbatim p, freeBars false s = 0) := by
  have hcanonical := (Resource.canonical_of_readBlock h).params
  refine ⟨⟨(opening r).flatMap (split '\n'), (responseSection r).flatMap (split '\n'), ?_,
    split_resourceSection hcanonical⟩, perm_flatMap_kind r.params, fun p _ => ?_⟩
  · have hnone : ∀ p ∈ ({ r with params := [] } : Resource).params, p.Canonical := nofun
    rw [split_resourceSection hnone]
    exact congrArg (· ++ _) (List.append_nil _)
  · refine ⟨freeBars_paramRow p, ?_⟩
    rw [freeBars_paramRow, Nat.add_eq_left, List.sum_eq_zero_iff_forall_eq_nat,
      List.forall_mem_map]

theorem readBlock_param_tables_of_escaped_bar :
    let body := ("@api \x7bput\x7d /x X\n@apiParam \x7ba\\|b\x7d [n=c] New | title\n" ++
      "@apiUrlParam id The | key").toList
    let id : Param := ⟨.url, "id".toList, none, none, none, "The | key".toList, true⟩
    let n : Param :=
      ⟨.form, ['n'], none, some "a\\|b".toList, some ['c'], "New | title".toList, false⟩
    let r : Resource :=
      { path := "/x".toList, method := "put".toList, version := none, tags := []
        displayName := ['X'], description := none, deprecated := false
        deprecatedDescription := none, roles := [], params := [n, id]
        responses := [⟨200, "ok".toList, []⟩] }
    let rows := ["#### URL parameters".toList, []] ++ tableHead ++
      ["| `id` |  | yes |  | The \\| key |".toList, [], "#### Form parameters".toList, []] ++
      tableHead ++ ["| `n` | `a\\|b` | no | `c` | New \\| title |".toList, []]
    (readBlock .empty .strict body).outcome = .ok (some r) ∧
      (∃ before after, split '\n' (resourceSection r) = before ++ rows ++ after) ∧
      freeBars false (paramRow n) = 6 := by
  intro body id n r rows
  have hread : (readBlock .empty .strict body).outcome = .ok (some r) := by decide +kernel
  obtain ⟨⟨before, after, -, hlines⟩, -, hbars⟩ := readBlock_param_tables hread
  have hrows : ParamKind.all.flatMap
      (fun kind => tableLines kind (r.params.filter fun p => p.kind = kind)) = rows := by
    decide +kernel
  rw [hrows] at hlines
  refine ⟨hread, ⟨before, after, hlines⟩, (hbars n List.mem_cons_self).2.2 ?_⟩
  decide

/-- A type with an alternative brings a bar of its own into the row. -/
theorem readBlock_param_tables_of_alternative :
    let body := "@api \x7bget\x7d /x X\n@apiParam \x7bString|Number\x7d id Identifier".toList
    let id : Param := ⟨.form, "id".toList, none, some "String|Number".toList, none,
      "Identifier".toList, true⟩
    let r : Resource :=
      { path := "/x".toList, method := "get".toList, version := none, tags := []
        displayName := ['X'], description := none, deprecated := false
        deprecatedDescription := none, roles := [], params := [id]
        responses := [⟨200, "ok".toList, []⟩] }
    (readBlock .empty .strict body).outcome = .ok (some r) ∧
      paramRow id = "| `id` | `String|Number` | yes |  | Identifier |".toList ∧
      paramRow id ∈ split '\n' (resourceSection r) ∧
      freeBars false (paramRow id) = 7 := by
  decide +kernel

end ApiNotes.Markdown
