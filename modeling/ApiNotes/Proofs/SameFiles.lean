import ApiNotes.Proofs.PathOrder
import ApiNotes.Proofs.SpelledPaths

/-! # Paths that lead to one file

Selected paths have different components, but these may lead to one file: by a dot at the start, by
two dots, or because one path starts at the root and another does not. Patterns that bring in none
of this read no file twice.
-/

namespace ApiNotes

section MapM

variable {ε α β : Type} {f : α → Except ε β} {xs : List α} {ys : List β}

theorem mapM_cons_eq_ok {x : α} (h : (x :: xs).mapM f = .ok ys) :
    ∃ y ys', f x = .ok y ∧ xs.mapM f = .ok ys' ∧ y :: ys' = ys := by
  rw [List.mapM_cons] at h
  obtain ⟨y, hy, h⟩ := bind_eq_ok_iff.1 h
  obtain ⟨ys', hys', h⟩ := bind_eq_ok_iff.1 h
  exact ⟨y, ys', hy, hys', Except.ok.inj h⟩

theorem exists_of_mem_mapM {y : β} (h : xs.mapM f = .ok ys) (hy : y ∈ ys) :
    ∃ x ∈ xs, f x = .ok y := by
  induction xs generalizing ys with
  | nil =>
    obtain rfl := Except.ok.inj h
    cases hy
  | cons x xs ih =>
    obtain ⟨z, zs, hz, hzs, rfl⟩ := mapM_cons_eq_ok h
    rcases List.mem_cons.1 hy with rfl | hy
    · exact ⟨x, List.mem_cons_self, hz⟩
    · obtain ⟨x', hx', hf⟩ := ih hzs hy
      exact ⟨x', List.mem_cons_of_mem _ hx', hf⟩

theorem map_of_mapM {g : β → α} (h : xs.mapM f = .ok ys) (hg : ∀ x y, f x = .ok y → g y = x) :
    ys.map g = xs := by
  induction xs generalizing ys with
  | nil =>
    obtain rfl := Except.ok.inj h
    rfl
  | cons x xs ih =>
    obtain ⟨y, ys, hy, hys, rfl⟩ := mapM_cons_eq_ok h
    rw [List.map_cons, hg x y hy, ih hys]

end MapM

namespace Glob

/-- A direct path, or that of the current directory. -/
structure IsLevel (absolute : Bool) (path : Text) : Prop where
  ne_nil : path ≠ []
  isAbsolute_eq : Path.isAbsolute path = absolute
  direct : Path.components path = [.current] ∨ Path.IsDirect path

variable {path name : Text} {absolute : Bool}

theorem IsLevel.join (h : IsLevel absolute path) : IsLevel absolute (Path.join path ['.']) := by
  refine ⟨Path.join_ne_nil h.ne_nil _, (Path.isAbsolute_join h.ne_nil _).trans h.isAbsolute_eq, ?_⟩
  have hsame : Path.components (Path.join path ['.']) = Path.components path := by
    rw [Path.components_join h.ne_nil (by decide), Path.component?_eq_none (Or.inr rfl),
      Option.toList_none, List.append_nil]
  rw [Path.IsDirect, hsame]
  exact h.direct

theorem IsLevel.entryPath (h : IsLevel absolute path) (hslash : '/' ∉ name)
    (hup : name ≠ ['.', '.']) (hne : entryPath path name ≠ []) :
    IsLevel absolute (entryPath path name) := by
  unfold Glob.entryPath at hne ⊢
  split
  · next hcurrent =>
    refine ⟨?_, ?_, ?_⟩
    · rwa [if_pos hcurrent] at hne
    · rw [Path.isAbsolute_of_not_mem hslash, ← h.isAbsolute_eq,
        Path.isAbsolute_of_components hcurrent]
    · rw [Path.IsDirect, Path.components_of_not_mem hslash]
      split
      · exact Or.inl rfl
      · exact Or.inr (Path.ne_of_mem_component? hup)
  · next hcurrent =>
    exact ⟨Path.join_ne_nil h.ne_nil name,
      (Path.isAbsolute_join h.ne_nil name).trans h.isAbsolute_eq,
      Or.inr ((h.direct.resolve_left hcurrent).join h.ne_nil hslash hup)⟩

theorem entryPath_ne_nil (h : path ≠ []) (hname : name ≠ []) : entryPath path name ≠ [] := by
  unfold Glob.entryPath
  split
  · exact hname
  · exact Path.join_ne_nil h name

/-- A step that cannot lead to the directory above. -/
def IsStraight : GlobStep → Prop
  | .plain name => '/' ∉ name ∧ name ≠ ['.', '.']
  | .wild ws => ['.', '.'] ∉ dotEntries ws
  | .anyDirectories => True

theorem eq_dot_of_mem_dotEntries {ws : List Wildcard} (h : name ∈ dotEntries ws)
    (hstraight : ['.', '.'] ∉ dotEntries ws) : name = ['.'] := by
  have hmem : name ∈ [['.', '.'], ['.']] := by
    unfold dotEntries at h
    split at h
    · exact List.mem_of_mem_filter h
    · cases h
  simp only [List.mem_cons, List.not_mem_nil, or_false] at hmem
  rcases hmem with rfl | rfl
  · exact (hstraight h).elim
  · rfl

theorem IsLevel.child {tree : FileTree} {location : Location} (h : IsLevel absolute path)
    (hnamed : tree.Named) (hname : name ∈ tree.children location) :
    IsLevel absolute (Glob.entryPath path name) := by
  obtain ⟨hslash, hnot⟩ := FileTree.isEntryName_of_mem_children hnamed hname
  simp only [List.mem_cons, List.not_mem_nil, or_false, not_or] at hnot
  exact h.entryPath hslash hnot.2.2 (entryPath_ne_nil h.ne_nil hnot.1)

/-- Straight steps lead from a level to levels only. -/
theorem isLevel_of_mem_search {tree : FileTree} (hnamed : tree.Named) (directoriesOnly : Bool)
    {steps : List GlobStep} (hsteps : ∀ step ∈ steps, IsStraight step) (hp : IsLevel absolute path)
    (location : Location) :
    ∀ p ∈ search tree directoriesOnly steps path location, IsLevel absolute p := by
  fun_induction search tree directoriesOnly steps path location with
  | case1 path location =>
    intro p hmem
    unfold accept at hmem
    split at hmem
    · cases hmem
    · rwa [List.mem_singleton.1 hmem]
  | case2 path location name rest next found hfound ih =>
    rw [List.forall_mem_cons] at hsteps
    refine ih hsteps.2 (hp.entryPath hsteps.1.1 hsteps.1.2 ?_)
    intro hnil
    simp [next, hnil] at hfound
  | case3 => exact nofun
  | case4 path location ws rest hdir dots named ih ih' =>
    rw [List.forall_mem_cons] at hsteps
    intro p hmem
    rcases List.mem_append.1 hmem with hmem | hmem
    -- Of the two dot entries only the directory itself is left.
    · obtain ⟨name, hname, hmem⟩ := List.mem_flatMap.1 hmem
      obtain rfl := eq_dot_of_mem_dotEntries hname hsteps.1
      split at hmem
      · exact ih _ _ hsteps.2 hp.join p hmem
      · cases hmem
    · obtain ⟨name, hname, hmem⟩ := List.mem_flatMap.1 hmem
      split at hmem
      · exact ih' name hsteps.2 (hp.child hnamed hname) p hmem
      · cases hmem
  | case5 => exact nofun
  | case6 path location rest ih ih' =>
    intro p hmem
    obtain ⟨⟨name, hname⟩, -, hmem⟩ := List.mem_flatMap.1 hmem
    have hnext := hp.child hnamed hname
    -- The steps end or go on at the entry, or the same steps are taken from it once more.
    rcases List.mem_append.1 hmem with hmem | hmem
    · cases rest with
      | nil =>
        dsimp only at hmem
        split at hmem
        · rwa [List.mem_singleton.1 hmem]
        · cases hmem
      | cons step rest =>
        dsimp only at hmem
        split at hmem
        · exact ih name (fun s hs => hsteps s (by simp [hs])) hnext p hmem
        · cases hmem
    · split at hmem
      · exact ih' name hname hsteps hnext p hmem
      · cases hmem

end Glob

namespace Wildcard

variable {position n : Nat} {previous : Option Char} {s name : Text} {ws : List Wildcard}
  {w : Wildcard}

theorem plain?_of_map (hw : ∀ ws, plain? (w :: ws) = none)
    {rest : Except PatternError (List Wildcard)} (h : (w :: ·) <$> rest = .ok ws) :
    plain? ws = none := by
  obtain ⟨ws', -, rfl⟩ := map_eq_ok_iff.1 h
  exact hw ws'

theorem plain?_class? (h : class? s = some (w, n)) (ws : List Wildcard) :
    plain? (w :: ws) = none := by
  unfold class? at h
  split at h
  · obtain ⟨_, -, heq⟩ := Option.map_eq_some_iff.1 h
    obtain ⟨rfl, -⟩ := Prod.mk.inj heq
    rfl
  · cases h
  · obtain ⟨_, -, heq⟩ := Option.map_eq_some_iff.1 h
    obtain ⟨rfl, -⟩ := Prod.mk.inj heq
    rfl
  · cases h

theorem plain?_read_star (h : read position 0 previous ('*' :: s) = .ok ws) :
    plain? ws = none := by
  unfold read at h
  dsimp only at h
  rw [if_neg (by decide), if_pos rfl] at h
  split at h
  · exact plain?_of_map (fun _ => rfl) h
  · split at h
    · split at h
      · exact plain?_of_map (fun _ => rfl) h
      · exact plain?_of_map (fun _ => rfl) h
      · cases h
    · cases h
  · cases h

theorem read_cons_eq_ok {c : Char} (h : read position 0 previous (c :: s) = .ok ws) :
    (∃ ws', read (position + 1) 0 (some c) s = .ok ws' ∧ .char c :: ws' = ws) ∨
      plain? ws = none := by
  by_cases hstar : c = '*'
  · subst hstar
    exact Or.inr (plain?_read_star h)
  · unfold read at h
    dsimp only at h
    rw [if_neg hstar] at h
    split at h
    · exact Or.inr (plain?_of_map (fun _ => rfl) h)
    · split at h
      · split at h
        · next hclass => exact Or.inr (plain?_of_map (plain?_class? hclass) h)
        · cases h
      · exact Or.inl (map_eq_ok_iff.1 h)

/-- Wildcards that are all plain characters spell the text from which they were read. -/
theorem eq_of_plain?_read (h : read position 0 previous s = .ok ws)
    (hname : plain? ws = some name) : name = s := by
  induction s generalizing position previous ws name with
  | nil =>
    obtain rfl := Except.ok.inj h
    exact (Option.some.inj hname).symm
  | cons c s ih =>
    rcases read_cons_eq_ok h with ⟨ws', hws', rfl⟩ | hnone
    · obtain ⟨name', hname', rfl⟩ := Option.map_eq_some_iff.1 hname
      rw [ih hws' hname']
    · rw [hnone] at hname
      cases hname

end Wildcard

namespace Selection

/-- As a name with wildcards, the piece stands for the directory above. -/
def climbs (piece : Text) : Bool :=
  match Wildcard.ofText piece with
  | .ok ws => (Glob.dotEntries ws).contains ['.', '.']
  | .error _ => false

/-- A pattern that brings in no dot at the start of a path and no two dots in it. -/
structure IsStraight (tree : FileTree) (pattern : Text) : Prop where
  climbs_eq_false : ∀ piece ∈ Text.split '/' pattern, climbs piece = false
  not_current : tree.isFile pattern = true → (Path.components pattern).head? ≠ some .current

variable {tree : FileTree} {pattern path : Text}

theorem ne_parent_of_climbs {piece : Text} (h : climbs piece = false) : piece ≠ ['.', '.'] := by
  rintro rfl
  revert h
  decide +kernel

theorem isStraight_ofWildcards {piece : Text} (hslash : '/' ∉ piece) (h : climbs piece = false)
    {ws : List Wildcard} (hws : Wildcard.ofText piece = .ok ws) :
    Glob.IsStraight (.ofWildcards ws) := by
  unfold GlobStep.ofWildcards
  split
  · next name hname =>
    obtain rfl := Wildcard.eq_of_plain?_read hws hname
    exact ⟨hslash, ne_parent_of_climbs h⟩
  · split
    · trivial
    · simpa [climbs, hws, Glob.IsStraight] using h

theorem mem_of_mem_collapse {step : GlobStep} {steps : List GlobStep}
    (h : step ∈ Glob.collapse steps) : step ∈ steps := by
  fun_induction Glob.collapse steps with
  | case1 steps ih => exact List.mem_cons_of_mem _ (ih h)
  | case2 step' steps _ ih =>
    rcases List.mem_cons.1 h with rfl | h
    · exact List.mem_cons_self
    · exact List.mem_cons_of_mem _ (ih h)
  | case3 => exact h

theorem mem_split_of_mem_pieces {piece : Text} (h : piece ∈ Glob.pieces pattern) :
    piece ∈ Text.split '/' pattern := by
  unfold Glob.pieces at h
  dsimp only at h
  split at h
  · exact (List.dropLast_sublist _).subset h
  · exact h

theorem mem_split_of_mem_relative {piece : Text}
    (h : piece ∈ Text.split '/' (Glob.relative pattern)) : piece ∈ Text.split '/' pattern := by
  unfold Glob.relative at h
  cases pattern with
  | nil => exact h
  | cons c s =>
    rcases eq_or_ne c '/' with rfl | hc
    · rw [Text.split_cons_sep]
      exact List.mem_cons_of_mem _ h
    · simpa [Text.after?, hc.symm] using h

theorem isStraight_of_ofText {glob : Glob}
    (hclimbs : ∀ piece ∈ Text.split '/' pattern, climbs piece = false)
    (h : Glob.ofText pattern = .ok glob) : ∀ step ∈ glob.steps, Glob.IsStraight step := by
  obtain ⟨_, -, h⟩ := bind_eq_ok_iff.1 h
  obtain ⟨steps, hsteps, h⟩ := bind_eq_ok_iff.1 h
  obtain rfl := Except.ok.inj h
  intro step hstep
  obtain ⟨piece, hpiece, hread⟩ := exists_of_mem_mapM hsteps (mem_of_mem_collapse hstep)
  obtain ⟨ws, hws, rfl⟩ := map_eq_ok_iff.1 hread
  have hmem := mem_split_of_mem_relative (mem_split_of_mem_pieces hpiece)
  exact isStraight_ofWildcards (Text.sep_not_mem_of_mem_split hmem) (hclimbs piece hmem) hws

theorem isStraight_below (hclimbs : ∀ piece ∈ Text.split '/' pattern, climbs piece = false) :
    ∀ step ∈ (Glob.below pattern).steps, Glob.IsStraight step := by
  have hpieces : ∀ piece ∈ Text.split '/' (Glob.relative (Path.trimSlashes pattern)),
      piece ∈ Text.split '/' pattern := by
    intro piece hpiece
    replace hpiece := mem_split_of_mem_relative hpiece
    obtain ⟨-, n, hn⟩ := Text.exists_replicate_dropEndWhile '/' pattern
    rw [hn]
    cases n with
    | zero => simpa [Path.trimSlashes] using hpiece
    | succ n =>
      rw [List.replicate_succ, Text.split_append]
      exact List.mem_append_left _ hpiece
  simp only [Glob.below, List.forall_mem_append, List.forall_mem_map, List.forall_mem_cons]
  refine ⟨fun piece hpiece => ⟨Text.sep_not_mem_of_mem_split hpiece,
    ne_parent_of_climbs (hclimbs piece (hpieces piece hpiece))⟩, trivial, ?_,
    List.forall_mem_nil _⟩
  simp [Glob.IsStraight, Glob.dotEntries]

theorem isLevel_of_mem_paths (hnamed : tree.Named) {glob : Glob}
    (hsteps : ∀ step ∈ glob.steps, Glob.IsStraight step)
    (h : path ∈ Glob.paths tree pattern glob) :
    Glob.IsLevel (Path.isAbsolute pattern) path := by
  refine Glob.isLevel_of_mem_search hnamed _ hsteps ?_ _ path h
  have hroot : Path.IsDirect ['/'] := Path.isDirect_of_split (by decide) (by decide)
  cases Path.isAbsolute pattern with
  | true => exact ⟨List.cons_ne_nil _ _, rfl, Or.inr hroot⟩
  | false => exact ⟨List.cons_ne_nil _ _, rfl, Or.inl rfl⟩

theorem isDirect_of_isFile {absolute : Bool} (hfile : tree.isFile path = true)
    (h : Glob.IsLevel absolute path) : Path.IsDirect path := by
  refine h.direct.resolve_left fun hcurrent => ?_
  obtain ⟨content, hcontent⟩ := FileTree.isFile_iff.1 hfile
  obtain ⟨hresolve, hget⟩ := FileTree.content?_eq_some hcontent
  have hstart : tree.start path = tree.current := by
    rw [FileTree.start, Path.isAbsolute_of_components hcurrent, if_neg Bool.false_ne_true]
  have hdir := FileTree.isDirectory_start hresolve
  rw [Path.spelled, hcurrent] at hget
  rw [hstart] at hdir
  cases hget.symm.trans hdir

/-- The files that a straight pattern selects have direct paths, which start where it starts. -/
theorem isDirect_of_mem_expand (hnamed : tree.Named) (hp : IsStraight tree pattern)
    {files : List Text} (h : expand tree pattern = .ok files) (hpath : path ∈ files) :
    Path.IsDirect path ∧ Path.isAbsolute path = Path.isAbsolute pattern := by
  unfold expand at h
  split at h
  · next hfile =>
    obtain rfl := Except.ok.inj h
    obtain rfl := List.mem_singleton.1 hpath
    exact ⟨Path.isDirect_of_split (hp.not_current hfile)
      fun piece hpiece => ne_parent_of_climbs (hp.climbs_eq_false piece hpiece), rfl⟩
  · split at h
    · obtain rfl := Except.ok.inj h
      obtain ⟨hmem, hfile⟩ := List.mem_filter.1 hpath
      rw [Bool.and_eq_true] at hfile
      have hlevel := isLevel_of_mem_paths hnamed (isStraight_below hp.climbs_eq_false) hmem
      exact ⟨isDirect_of_isFile hfile.1 hlevel, hlevel.isAbsolute_eq⟩
    · obtain ⟨glob, hglob, rfl⟩ := map_eq_ok_iff.1 h
      obtain ⟨hmem, hfile⟩ := List.mem_filter.1 hpath
      have hsteps := isStraight_of_ofText hp.climbs_eq_false hglob
      have hlevel := isLevel_of_mem_paths hnamed hsteps hmem
      exact ⟨isDirect_of_isFile hfile hlevel, hlevel.isAbsolute_eq⟩

theorem read_eq_ok {source : Source} (h : read tree path = .ok source) :
    source.id = path ∧ ∃ content, tree.content? path = some content ∧
      Text.ofBytes? content = some source.text := by
  unfold read at h
  split at h
  · next text htext =>
    obtain rfl := Except.ok.inj h
    exact ⟨rfl, Option.bind_eq_some_iff.1 htext⟩
  · cases h

/-- Each source is the file to which its path leads by its components, and different sources have
different components. So two sources are one file exactly if their paths lead to one location by
different components. With straight patterns one of the two paths then starts at the root and the
other does not, so if all patterns start alike, no file is a source twice. -/
theorem corpus_sources_by_spelling (tree : FileTree) {patterns : List Text} {sources : Corpus}
    (h : (corpus tree patterns).2 = .ok sources) :
    (∀ source ∈ sources, tree.resolve source.id = .ok (Path.spelled tree.current source.id) ∧
        ∃ content, tree.get? (Path.spelled tree.current source.id) = some (.file content) ∧
          Text.ofBytes? content = some source.text) ∧
      sources.Pairwise (fun s s' => Path.components s.id ≠ Path.components s'.id) ∧
      (∀ s ∈ sources, ∀ s' ∈ sources, tree.resolve s.id = tree.resolve s'.id ↔
        Path.spelled tree.current s.id = Path.spelled tree.current s'.id) ∧
      (tree.Named → (∀ pattern ∈ patterns, IsStraight tree pattern) →
        sources.Pairwise (fun s s' => tree.resolve s.id = tree.resolve s'.id →
          Path.isAbsolute s.id ≠ Path.isAbsolute s'.id) ∧
        ((∀ p ∈ patterns, ∀ q ∈ patterns, Path.isAbsolute p = Path.isAbsolute q) →
          sources.Pairwise fun s s' => tree.resolve s.id ≠ tree.resolve s'.id)) := by
  obtain ⟨files, hfiles, hread⟩ := bind_eq_ok_iff.1 h
  have hids : sources.map Source.id = order files :=
    map_of_mapM hread fun path source hsource => (read_eq_ok hsource).1
  have hsources : ∀ source ∈ sources,
      tree.resolve source.id = .ok (Path.spelled tree.current source.id) ∧
        ∃ content, tree.get? (Path.spelled tree.current source.id) = some (.file content) ∧
          Text.ofBytes? content = some source.text := by
    intro source hs
    obtain ⟨path, -, hsource⟩ := exists_of_mem_mapM hread hs
    obtain ⟨rfl, content, hcontent, htext⟩ := read_eq_ok hsource
    obtain ⟨hresolve, hget⟩ := FileTree.content?_eq_some hcontent
    exact ⟨hresolve, content, hget, htext⟩
  have hapart : sources.Pairwise fun s s' => Path.components s.id ≠ Path.components s'.id := by
    have horder := pairwise_order files
    rw [← hids, List.pairwise_map] at horder
    exact horder.imp Path.Before.components_ne
  have hresolve : ∀ s ∈ sources, ∀ s' ∈ sources, tree.resolve s.id = tree.resolve s'.id ↔
      Path.spelled tree.current s.id = Path.spelled tree.current s'.id := by
    intro s hs s' hs'
    rw [(hsources s hs).1, (hsources s' hs').1, Except.ok.injEq]
  refine ⟨hsources, hapart, hresolve, fun hnamed hstraight => ?_⟩
  have hdirect : ∀ s ∈ sources, Path.IsDirect s.id ∧
      ∃ pattern ∈ patterns, Path.isAbsolute s.id = Path.isAbsolute pattern := by
    intro s hs
    have hmem : s.id ∈ files := order_subset files (hids ▸ List.mem_map_of_mem hs)
    obtain ⟨pattern, hp, selected, hexpand, hselected⟩ := (mem_of_expandAll hfiles).1 hmem
    obtain ⟨hdirect, hroot⟩ :=
      isDirect_of_mem_expand hnamed (hstraight pattern hp) hexpand hselected
    exact ⟨hdirect, pattern, hp, hroot⟩
  have hroots : sources.Pairwise fun s s' => tree.resolve s.id = tree.resolve s'.id →
      Path.isAbsolute s.id ≠ Path.isAbsolute s'.id :=
    hapart.imp_of_mem fun hs hs' hne hsame hroot => hne <|
      Path.components_eq_of_spelled (hdirect _ hs).1 (hdirect _ hs').1 hroot
        ((hresolve _ hs _ hs').1 hsame)
  refine ⟨hroots, fun halike => hroots.imp_of_mem fun hs hs' hroot hsame => hroot hsame ?_⟩
  obtain ⟨-, p, hp, hsp⟩ := hdirect _ hs
  obtain ⟨-, q, hq, hsq⟩ := hdirect _ hs'
  rw [hsp, hsq, halike p hp q hq]

theorem corpus_eq_ok {tree : FileTree} {patterns files ordered : List Text} {sources : Corpus}
    (hfiles : (expandAll tree patterns).2 = .ok files) (horder : order files = ordered)
    (hread : ordered.mapM (read tree) = .ok sources) : (corpus tree patterns).2 = .ok sources :=
  bind_eq_ok_iff.2 ⟨files, hfiles, by rwa [horder]⟩

/-- Two files, one of which is reached by its path, by its directory and by a glob pattern. -/
theorem corpus_sources_by_spelling_of_overlaps :
    let tree : FileTree :=
      { entries := [(["w".toList], .directory), (["w".toList, "d".toList], .directory),
          (["w".toList, "d".toList, "a.py".toList], .file .empty),
          (["w".toList, "b.py".toList], .file .empty)]
        distinct := by decide
        current := ["w".toList] }
    let patterns := ["b.py".toList, "d//a.py".toList, "d".toList, "./d/*".toList]
    let sources : Corpus := [⟨"b.py".toList, []⟩, ⟨"d//a.py".toList, []⟩]
    (corpus tree patterns).2 = .ok sources ∧ tree.Named ∧
      (∀ pattern ∈ patterns, IsStraight tree pattern) ∧
      (∀ p ∈ patterns, ∀ q ∈ patterns, Path.isAbsolute p = Path.isAbsolute q) ∧
      sources.Pairwise fun s s' => tree.resolve s.id ≠ tree.resolve s'.id := by
  intro tree patterns sources
  have hfile : expand tree "d//a.py".toList = .ok ["d//a.py".toList] := by
    decide +kernel
  have hname : expand tree "b.py".toList = .ok ["b.py".toList] := by
    decide +kernel
  have hchildren : tree.children ["w".toList, "d".toList] = ["a.py".toList] :=
    List.mergeSort_singleton "a.py".toList
  have hdirectory : expand tree "d".toList = .ok ["d/a.py".toList] := by
    have hpaths : Glob.paths tree "d".toList (.below "d".toList) = ["d/a.py".toList] := calc
      _ = Glob.search tree false [.anyDirectories, .wild [.anySequence]] "d".toList
          ["w".toList, "d".toList] := Glob.search_plain _ (by decide) rfl
      _ = (tree.children ["w".toList, "d".toList]).map (Glob.entryPath "d".toList) :=
        Glob.search_below (by rw [hchildren]; decide +kernel)
      _ = ["d/a.py".toList] := by
        rw [hchildren]
        rfl
    rw [expand, if_neg (by decide +kernel), if_pos (by decide +kernel), hpaths]
    rfl
  have hglob : expand tree "./d/*".toList = .ok ["d/a.py".toList] := by
    let glob : Glob :=
      { steps := [.plain ".".toList, .plain "d".toList, .wild [.anySequence]]
        directoriesOnly := false }
    have hpattern : Glob.ofText "./d/*".toList = .ok glob := rfl
    have hpaths : Glob.paths tree "./d/*".toList glob = ["d/a.py".toList] := calc
      _ = Glob.search tree false [.plain "d".toList, .wild [.anySequence]] ".".toList
          ["w".toList] := Glob.search_plain _ (by decide) rfl
      _ = Glob.search tree false [.wild [.anySequence]] "d".toList ["w".toList, "d".toList] :=
        Glob.search_plain _ (by decide) rfl
      _ = (tree.children ["w".toList, "d".toList]).map (Glob.entryPath "d".toList) :=
        Glob.search_star rfl
      _ = ["d/a.py".toList] := by
        rw [hchildren]
        rfl
    rw [expand, if_neg (by decide +kernel), if_neg (by decide +kernel), hpattern, Except.map_ok,
      hpaths]
    rfl
  have hfiles : (expandAll tree patterns).2 =
      .ok ["b.py".toList, "d//a.py".toList, "d/a.py".toList, "d/a.py".toList] := by
    simp only [expandAll, patterns, hfile, hname, hdirectory, hglob]
    rfl
  have horder :
      order ["b.py".toList, "d//a.py".toList, "d/a.py".toList, "d/a.py".toList] =
        ["b.py".toList, "d//a.py".toList] := by
    have hspellings : Path.same "b.py".toList "d//a.py".toList = false ∧
        Path.same "d//a.py".toList "d/a.py".toList = true := by
      decide +kernel
    rw [order_of_pairwise (by decide +kernel)]
    simp only [dedup, hspellings, if_true, Bool.false_eq_true, if_false]
  have h : (corpus tree patterns).2 = .ok sources := corpus_eq_ok hfiles horder (by decide +kernel)
  have hnamed : tree.Named := by
    have hnames : ∀ e ∈ tree.entries, ∀ name ∈ e.1,
        '/' ∉ name ∧ name ∉ [[], ['.'], ['.', '.']] := by
      decide +kernel
    exact fun e he name hname => ⟨(hnames e he name hname).1, (hnames e he name hname).2⟩
  have hstraight : ∀ pattern ∈ patterns, IsStraight tree pattern := by
    have hpatterns : ∀ pattern ∈ patterns,
        (∀ piece ∈ Text.split '/' pattern, climbs piece = false) ∧
          (tree.isFile pattern = true → (Path.components pattern).head? ≠ some .current) := by
      decide +kernel
    exact fun pattern hp => ⟨(hpatterns pattern hp).1, (hpatterns pattern hp).2⟩
  have halike : ∀ p ∈ patterns, ∀ q ∈ patterns, Path.isAbsolute p = Path.isAbsolute q := by
    decide +kernel
  exact ⟨h, hnamed, hstraight, halike,
    ((corpus_sources_by_spelling tree h).2.2.2 hnamed hstraight).2 halike⟩

/-- The path of a file from the current directory, and the same path behind a dot, behind two dots
and the name of the directory, and from the root: each of these is a second source. -/
theorem corpus_sources_by_spelling_of_same_file :
    let tree : FileTree :=
      { entries := [(["w".toList], .directory), (["w".toList, "a.py".toList], .file .empty)]
        distinct := by decide
        current := ["w".toList] }
    ∀ spelling ∈ ["./a.py".toList, "../w/a.py".toList, "/w/a.py".toList],
      ∃ sources, (corpus tree [spelling, "a.py".toList]).2 = .ok sources ∧
        ¬sources.Pairwise fun s s' => tree.resolve s.id ≠ tree.resolve s'.id := by
  intro tree spelling hs
  have hspelling : ∀ spelling ∈ ["./a.py".toList, "../w/a.py".toList, "/w/a.py".toList],
      (expandAll tree [spelling, "a.py".toList]).2 = .ok [spelling, "a.py".toList] ∧
        [spelling, "a.py".toList].Pairwise (fun p q => Path.le p q = true) ∧
        Path.same spelling "a.py".toList = false := by
    decide +kernel
  have hread : ∀ spelling ∈ ["./a.py".toList, "../w/a.py".toList, "/w/a.py".toList],
      [spelling, "a.py".toList].mapM (read tree) = .ok [⟨spelling, []⟩, ⟨"a.py".toList, []⟩] ∧
        tree.resolve spelling = tree.resolve "a.py".toList := by
    decide +kernel
  obtain ⟨hfiles, hsorted, hapart⟩ := hspelling spelling hs
  obtain ⟨hmapM, hsame⟩ := hread spelling hs
  have horder : order [spelling, "a.py".toList] = [spelling, "a.py".toList] := by
    rw [order_of_pairwise hsorted]
    simp only [dedup, hapart, Bool.false_eq_true, if_false]
  refine ⟨_, corpus_eq_ok hfiles horder hmapM, fun hpairwise => ?_⟩
  exact (List.pairwise_cons.1 hpairwise).1 _ List.mem_cons_self hsame

end Selection

end ApiNotes
