import ApiNotes.Proofs.TagFamilies
import ApiNotes.Proofs.Tokens

/-! # Route lines

A route line gives a method in braces, a path and a title. The method and the path are read as they
are given, and the title is the rest of the line, unless text in parentheses is taken for a group:
a group in the title ends later than the path, and the title is then what follows the group.
-/

namespace ApiNotes

namespace Fields

variable {s : Text} {span : Span}

/-- The first text in parentheses that has no parenthesis and no line end inside. -/
abbrev FirstParenthesized (s : Text) (span : Span) : Prop :=
  FirstChunk '(' ')' ['(', ')', '\n'] s span

theorem firstFree_nil (spans : List Span) : firstFree [] spans = spans.head? := by
  cases spans <;> rfl

theorem paths_append_space (fresh : Bool) (position : Nat) (before rest : Text) :
    ∃ early, paths fresh position (before ++ ' ' :: rest) =
        early ++ paths true (position + before.length + 1) rest ∧
      ∀ span ∈ early, span.start < position + before.length ∧ span.start < span.stop := by
  induction before generalizing fresh position with
  | nil => exact ⟨[], by simp [paths, isBlank], by simp⟩
  | cons c before ih =>
    obtain ⟨early, hpaths, hearly⟩ := ih (isBlank c) (position + 1)
    have hlater : paths (isBlank c) (position + 1) (before ++ ' ' :: rest) =
        early ++ paths true (position + (before.length + 1) + 1) rest := by
      rw [hpaths, show position + 1 + before.length = position + (before.length + 1) by omega]
    have hbound : ∀ span ∈ early,
        span.start < position + (before.length + 1) ∧ span.start < span.stop := by
      intro span hs
      have := hearly span hs
      omega
    simp only [List.cons_append, paths, List.length_cons, hlater]
    split
    · next hc =>
      refine ⟨_ :: early, rfl, List.forall_mem_cons.2 ⟨⟨by simp, ?_⟩, hbound⟩⟩
      obtain ⟨-, hc⟩ := Bool.and_eq_true_iff.1 hc
      obtain rfl := beq_iff_eq.1 hc
      simp [isBlank]
    · exact ⟨early, rfl, hbound⟩

theorem paths_of_word {path : Text} (hslash : path.head? = some '/')
    (hsolid : ∀ c ∈ path, isBlank c = false) (position : Nat) (rest : Text) :
    paths true position (path ++ ' ' :: rest) =
      ⟨position, position + path.length⟩ ::
        paths false (position + 1) (path.tail ++ ' ' :: rest) := by
  have hword : (path ++ ' ' :: rest).takeWhile (fun d => !isBlank d) = path := by
    rw [List.takeWhile_append_of_pos (by simpa using hsolid)]
    simp [isBlank]
  obtain ⟨tail, rfl⟩ := List.head?_eq_some_iff.1 hslash
  rw [List.cons_append] at hword ⊢
  rw [paths, hword]
  rfl

theorem ofText_path_eq {type name : Span} {group : Option Span}
    (ht : (occurrences (chunkLength? braced?) 0 0 s).head? = some type)
    (hg : (occurrences (chunkLength? parenthesized?) 0 0 s).head? = group)
    (hn : firstFree (type :: group.toList) (paths true 0 s) = some name) :
    ofText .path s =
      { type := some (chunkToken s type)
        group := group.map (chunkToken s)
        name := some (nameToken s name)
        description :=
          Text.trim (s.drop (max (max type.stop ((group.map Span.stop).getD 0)) name.stop)) } := by
  have hstops : (((some type).toList ++ group.toList ++ (some name).toList).map
      Span.stop).foldl max 0 = max (max type.stop ((group.map Span.stop).getD 0)) name.stop := by
    cases group <;> simp
  simp only [ofText, reserved, names, firstFree_nil, ht, hg]
  rw [Option.toList_some, List.singleton_append, hn, ← List.singleton_append, ← Option.toList_some,
    hstops]
  rfl

end Fields

namespace Route

open Text

def text (method path title : Text) : Text :=
  '\x7b' :: (method ++ '\x7d' :: ' ' :: (path ++ ' ' :: title))

def pathSpan (method path : Text) : Span :=
  ⟨method.length + 3, method.length + 3 + path.length⟩

/-- A method that is not blank and has no brace, a path without blanks and a title, all on one
line. -/
structure WellFormed (method path title : Text) : Prop where
  method_ne_blank : method.trim ≠ []
  method_free : ∀ c ∈ method, c ∉ ['\x7b', '\x7d', '\n']
  path_slash : path.head? = some '/'
  path_solid : ∀ c ∈ path, isBlank c = false
  title_line : '\n' ∉ title

variable {method path title : Text}

theorem text_append (method path title rest : Text) :
    text method path (title ++ rest) = text method path title ++ rest := by
  simp [text]

theorem drop_text_start (method path title : Text) :
    (text method path title).drop (pathSpan method path).start = path ++ ' ' :: title := by
  have htext : text method path title =
      ('\x7b' :: (method ++ ['\x7d', ' '])) ++ (path ++ ' ' :: title) := by
    simp [text]
  rw [htext]
  exact List.drop_left' (by simp [pathSpan])

theorem drop_text_stop (method path title : Text) :
    (text method path title).drop (pathSpan method path).stop = ' ' :: title := by
  rw [show (pathSpan method path).stop = (pathSpan method path).start + path.length from rfl,
    ← List.drop_drop, drop_text_start, List.drop_left]

namespace WellFormed

variable (h : WellFormed method path title)

include h

theorem newline_not_mem_text : '\n' ∉ text method path title := by
  have hmethod : '\n' ∉ method := fun hm => h.method_free _ hm (by decide)
  have hpath : '\n' ∉ path := by
    intro hp
    have := h.path_solid _ hp
    revert this
    decide
  simp [text, hmethod, hpath, h.title_line]

theorem firstChunk_method :
    Fields.FirstChunk '\x7b' '\x7d' ['\x7b', '\x7d', '\n'] (text method path title)
      ⟨0, method.length + 2⟩ :=
  ⟨⟨method, ⟨[], _, rfl, by simp⟩, h.method_free⟩, fun _ _ _ => Nat.zero_le _⟩

/-- The path is the first one outside the method, unless a group takes a part of it. -/
theorem firstFree_paths {group : Option Span}
    (hg : ∀ g, group = some g → g.overlaps (pathSpan method path) = false) :
    Fields.firstFree (⟨0, method.length + 2⟩ :: group.toList)
      (Fields.paths true 0 (text method path title)) = some (pathSpan method path) := by
  obtain ⟨early, hpaths, hearly⟩ :=
    Fields.paths_append_space true 0 ('\x7b' :: (method ++ ['\x7d'])) (path ++ ' ' :: title)
  have htext : text method path title =
      ('\x7b' :: (method ++ ['\x7d'])) ++ ' ' :: (path ++ ' ' :: title) := by
    simp [text]
  have hinside : early.find? (fun span =>
      !(⟨0, method.length + 2⟩ :: group.toList).any span.overlaps) = none := by
    rw [List.find?_eq_none]
    intro span hs
    have hbound := hearly span hs
    simp only [List.length_cons, List.length_append, List.length_nil] at hbound
    have hoverlap : span.overlaps ⟨0, method.length + 2⟩ = true := by
      simp only [Span.overlaps, Bool.and_eq_true, decide_eq_true_eq]
      omega
    simp [hoverlap]
  have hfree : (⟨0, method.length + 2⟩ :: group.toList).any (pathSpan method path).overlaps =
      false := by
    rw [List.any_eq_false]
    intro span hs
    rw [Bool.not_eq_true, Fields.overlaps_eq_false_iff]
    rcases List.mem_cons.1 hs with rfl | hs
    · exact Or.inl (Nat.le_succ _)
    · exact (Fields.overlaps_eq_false_iff.1 (hg span (Option.mem_toList.1 hs))).symm
  have hposition : 0 + ('\x7b' :: (method ++ ['\x7d'])).length + 1 = method.length + 3 := by
    simp
  rw [htext, hpaths, hposition, Fields.paths_of_word h.path_slash h.path_solid, Fields.firstFree,
    List.find?_append, hinside, Option.none_or]
  exact List.find?_cons_of_pos (congrArg (!·) hfree)

theorem readRoute_text {group : Option Span}
    (hfirst : ∀ g, group = some g ↔ Fields.FirstParenthesized (text method path title) g)
    (hg : ∀ g, group = some g → g.overlaps (pathSpan method path) = false) :
    Entry.readRoute (text method path title) = .ok
      { method := method.trim.lower
        path
        title := Text.trim ((text method path title).drop
          (max ((group.map Span.stop).getD 0) (pathSpan method path).stop)) } := by
  have htype := (Fields.head?_occurrences_iff (by decide)).2 h.firstChunk_method
  have hgroup : (Fields.occurrences (Fields.chunkLength? Fields.parenthesized?) 0 0
      (text method path title)).head? = group := by
    apply Option.ext
    intro g
    rw [hfirst]
    exact Fields.head?_occurrences_iff (by decide)
  have hfields := Fields.ofText_path_eq htype hgroup (h.firstFree_paths hg)
  have hmethod : (Fields.chunkToken (text method path title) ⟨0, method.length + 2⟩).value =
      method.trim :=
    Fields.Chunk.chunkToken_value ⟨⟨[], _, rfl, by simp⟩, h.method_free⟩
  have hpath : (Fields.nameToken (text method path title) (pathSpan method path)).value = path := by
    have hlength : (pathSpan method path).stop - (pathSpan method path).start = path.length := by
      simp [pathSpan]
    rw [Fields.nameToken, Span.slice, drop_text_start, hlength, List.take_left]
  have hline : ∀ n, Text.singleLine (Text.trim ((text method path title).drop n)) =
      Text.trim ((text method path title).drop n) := fun n =>
    singleLine_eq_self (isLine_trim fun hn => h.newline_not_mem_text (List.mem_of_mem_drop hn))
  have hstop : max (max (method.length + 2) ((group.map Span.stop).getD 0))
      (pathSpan method path).stop =
      max ((group.map Span.stop).getD 0) (pathSpan method path).stop := by
    simp only [pathSpan]
    omega
  rw [Entry.readRoute, hfields]
  simp only [Entry.filled?, Option.bind_some, hmethod, Option.map_some, hpath, hstop, hline,
    nonEmpty?_eq_some_iff.2 ⟨rfl, h.method_ne_blank⟩]
  rfl

end WellFormed

end Route

section Block

variable {method path title : Text}

open Route Text

theorem readBlock_of_route_line {body line : Text} {route : Route}
    (hbody : TagLine.ofBody body = ["@api ".toList ++ line])
    (hroute : Entry.readRoute line = .ok route) (table : Definitions) (policy : Policy) :
    ∃ r, readBlock table policy body = ⟨[], .ok (some r)⟩ ∧
      r.method = route.method ∧ r.path = route.path ∧ r.displayName = route.title := by
  have hkeyword : TagLine.keyword ("@api ".toList ++ line) = Tag.route.keyword := rfl
  have hcontent : TagLine.content ("@api ".toList ++ line) = line := rfl
  have hentry : Entry.ofLine ("@api ".toList ++ line) = .ok (.route route) := by
    rw [Entry.ofLine, hkeyword, Tag.ofKeyword?_keyword, hcontent]
    exact congrArg (Entry.route <$> ·) hroute
  have hfirst : (TagLine.ofBody body).head?.map TagLine.keyword = some Tag.route.keyword := by
    rw [hbody]
    exact congrArg some hkeyword
  have huse : ∀ l ∈ TagLine.ofBody body, TagLine.keyword l ≠ Tag.use.keyword := by
    rw [hbody, List.forall_mem_singleton, hkeyword]
    decide
  rw [readBlock_of_no_use table policy hfirst huse, hbody]
  simp only [List.map_cons, List.map_nil, play, hentry]
  exact ⟨_, rfl, rfl, rfl, rfl⟩

theorem Route.WellFormed.dropEnd (h : WellFormed method path title) (p : Char → Bool) :
    WellFormed method path (dropEndWhile p title) where
  method_ne_blank := h.method_ne_blank
  method_free := h.method_free
  path_slash := h.path_slash
  path_solid := h.path_solid
  title_line hn := h.title_line <| by
    rw [dropEndWhile_eq_rdropWhile] at hn
    exact (List.rdropWhile_prefix p title).subset hn

theorem Route.WellFormed.ofBody_line (h : WellFormed method path title) :
    TagLine.ofBody ("@api ".toList ++ text method path title) =
      ["@api ".toList ++ text method path (dropEndWhile (· == '\r') title)] := by
  have hnewline : '\n' ∉ "@api ".toList ++ text method path title := by
    rw [List.mem_append, not_or]
    exact ⟨by decide, h.newline_not_mem_text⟩
  have hsplit : split '\n' ("@api ".toList ++ text method path title) =
      ["@api ".toList ++ text method path title] := by
    simpa [join] using split_join (List.cons_ne_nil _ [])
      (List.forall_mem_singleton.2 hnewline)
  have hdrop : dropEndWhile (· == '\r') ("@api ".toList ++ text method path title) =
      "@api ".toList ++ text method path (dropEndWhile (· == '\r') title) := by
    have hspace : (' ' == '\r') = false := by decide
    simpa [text] using dropEndWhile_append_cons (p := (· == '\r')) hspace
      ("@api ".toList ++ '\x7b' :: (method ++ '\x7d' :: ' ' :: path)) title
  rw [TagLine.ofBody, TagLine.physicalLines, hsplit, List.map_singleton, hdrop]
  simp [TagLine.gather, TagLine.startsTag, join]

/-- A route line gives its method and its path, and the rest of the line or what follows a group in
it as its title, unless the group takes a part of the path. -/
theorem readBlock_route_line (table : Definitions) (policy : Policy)
    (h : WellFormed method path title)
    (hg : ∀ g, Fields.FirstParenthesized (text method path title) g →
      g.overlaps (pathSpan method path) = false) :
    ∃ r, readBlock table policy ("@api ".toList ++ text method path title) = ⟨[], .ok (some r)⟩ ∧
      r.method = method.trim.lower ∧ r.path = path ∧
      ((∀ g, Fields.FirstParenthesized (text method path title) g →
          g.stop ≤ (pathSpan method path).start) → r.displayName = title.trim) ∧
      ∀ g, Fields.FirstParenthesized (text method path title) g →
        (pathSpan method path).stop ≤ g.start →
          r.displayName = Text.trim ((text method path title).drop g.stop) := by
  obtain ⟨returns, htitle, hreturns⟩ := exists_append_dropEndWhile (· == '\r') title
  have hblank : ∀ c ∈ returns, isBlank c = true := by
    intro c hc
    rw [beq_iff_eq.1 (hreturns c hc)]
    rfl
  have hparen : ')' ∉ returns := fun hc => absurd (hreturns _ hc) (by decide)
  have hbody := h.ofBody_line
  have hkept := h.dropEnd (· == '\r')
  generalize dropEndWhile (· == '\r') title = kept at htitle hbody hkept
  subst htitle
  simp only [text_append, Fields.firstChunk_append_iff hparen] at hg hbody ⊢
  obtain ⟨group, hfirst⟩ : ∃ group : Option Span, ∀ g, group = some g ↔
      Fields.FirstParenthesized (text method path kept) g :=
    ⟨_, fun g => Fields.head?_occurrences_iff (by decide)⟩
  have hroute := hkept.readRoute_text hfirst fun g hsome => hg g ((hfirst g).1 hsome)
  obtain ⟨r, hr, hmethod, hpath, hname⟩ := readBlock_of_route_line hbody hroute table policy
  refine ⟨r, hr, hmethod, hpath, fun hbefore => ?_, fun g hfg hafter => ?_⟩
  · have hstop : max ((group.map Span.stop).getD 0) (pathSpan method path).stop =
        (pathSpan method path).stop := by
      cases group with
      | none => exact Nat.max_eq_right (Nat.zero_le _)
      | some g =>
        have := hbefore g ((hfirst g).1 rfl)
        simp only [pathSpan, Option.map_some, Option.getD_some] at this ⊢
        omega
    rw [hname, hstop, drop_text_stop, trim_cons_of_blank rfl, trim_append_of_blank hblank]
  · have hstop : max ((group.map Span.stop).getD 0) (pathSpan method path).stop = g.stop := by
      have := hfg.start_le_stop
      rw [(hfirst g).2 hfg, Option.map_some, Option.getD_some]
      omega
    rw [hname, hstop, List.drop_append_of_le_length hfg.stop_le, trim_append_of_blank hblank]

/-- A group in the method is the only one of the line, so that the title is kept as it is. -/
theorem readBlock_route_line_of_group_in_method :
    let method := " GET (x) ".toList
    let path := "/a\x7bid\x7d[0]".toList
    let title := "One (of two)\r".toList
    WellFormed method path title ∧
      (∀ g, Fields.FirstParenthesized (text method path title) g →
        g.overlaps (pathSpan method path) = false) ∧
      ∃ r, readBlock .empty .strict ("@api ".toList ++ text method path title) =
          ⟨[], .ok (some r)⟩ ∧
        r.method = "get (x)".toList ∧ r.path = path ∧ r.displayName = "One (of two)".toList := by
  intro method path title
  have h : WellFormed method path title :=
    ⟨by decide, by simp [method], by decide, by simp [path, isBlank], by decide⟩
  have hgroup : ∀ g, Fields.FirstParenthesized (text method path title) g → g = ⟨6, 9⟩ := by
    intro g hg
    rw [Fields.FirstParenthesized, ← Fields.head?_occurrences_iff (by decide)] at hg
    exact (Option.some.inj ((by decide : _ = some (Span.mk 6 9)).symm.trans hg)).symm
  have hg : ∀ g, Fields.FirstParenthesized (text method path title) g →
      g.overlaps (pathSpan method path) = false := by
    intro g hg
    rw [hgroup g hg]
    decide
  obtain ⟨r, hr, hmethod, hpath, htitle, -⟩ := readBlock_route_line .empty .strict h hg
  refine ⟨h, hg, r, hr, hmethod.trans (by decide +kernel), hpath, ?_⟩
  refine (htitle fun g hg => ?_).trans (by decide)
  rw [hgroup g hg]
  decide

/-- The title of a well-formed route line loses its start to a group. -/
theorem readBlock_route_line_of_group_in_title :
    let method := "get".toList
    let path := "/users".toList
    let title : Text := "List (all) users".toList
    WellFormed method path title ∧
      (readBlock .empty .strict ("@api ".toList ++ text method path title)).outcome = .ok (some
        { path, method, version := none, tags := [], displayName := "users".toList
          description := none, deprecated := false, deprecatedDescription := none, roles := []
          params := [], responses := [⟨200, "ok".toList, []⟩] }) ∧
      "users".toList ≠ title.trim := by
  intro method path title
  have h : WellFormed method path title :=
    ⟨by decide, by simp [method], by decide, by simp [path, isBlank], by decide⟩
  exact ⟨h, by decide +kernel, by decide⟩

end Block

end ApiNotes
