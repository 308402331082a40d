import ApiNotes.Files.Tree
import ApiNotes.Proofs.Entries
import ApiNotes.Proofs.Splitting

/-! # File trees that grow

A path that leads to a location still does in a tree that has more. Making directories adds nothing
but directories and ends with one where the path leads. Writing a file with a plain name changes
what is at one location, right below the directory in which the file is.
-/

namespace ApiNotes

namespace Path

theorem takeWhile_reverse_append {name : Text} (h : '/' ∉ name) (rest : Text) :
    (name.reverse ++ rest).takeWhile (· != '/') = name.reverse ++ rest.takeWhile (· != '/') := by
  refine List.takeWhile_append_of_pos fun c hc => ?_
  simp only [bne_iff_ne]
  rintro rfl
  exact h (List.mem_reverse.1 hc)

theorem splitLast_of_not_mem {path : Text} (h : '/' ∉ path) : splitLast path = ([], path) := by
  have htake := takeWhile_reverse_append h []
  rw [List.append_nil, List.takeWhile_nil, List.append_nil] at htake
  simp [splitLast, htake]

theorem splitLast_append {name : Text} (h : '/' ∉ name) (directory : Text) :
    splitLast (directory ++ '/' :: name) = (directory ++ ['/'], name) := by
  have htake : (directory ++ '/' :: name).reverse.takeWhile (· != '/') = name.reverse := by
    rw [List.reverse_append, List.reverse_cons, List.append_assoc, takeWhile_reverse_append h]
    simp
  have hlen : (directory ++ '/' :: name).length - name.length = (directory ++ ['/']).length := by
    simp
    omega
  rw [splitLast, htake, List.reverse_reverse, hlen,
    show directory ++ '/' :: name = (directory ++ ['/']) ++ name by simp, List.take_left]

theorem eq_name_or_append (path : Text) :
    '/' ∉ path ∨ ∃ directory name, '/' ∉ name ∧ path = directory ++ '/' :: name := by
  induction path with
  | nil => exact Or.inl List.not_mem_nil
  | cons c path ih =>
    rcases ih with h | ⟨directory, name, hname, rfl⟩
    · by_cases hc : c = '/'
      · exact Or.inr ⟨[], path, h, by rw [hc]; rfl⟩
      · exact Or.inl (by simp [h, Ne.symm hc])
    · exact Or.inr ⟨c :: directory, name, hname, rfl⟩

end Path

namespace FileTree

variable {tree tree' : FileTree} {location parent : Location} {node : Node} {path piece : Text}

theorem get?_nil (tree : FileTree) : tree.get? [] = some .directory := rfl

theorem get?_put (tree : FileTree) (hne : location ≠ []) (node : Node) (l : Location) :
    (tree.put location node).get? l = if l = location then some node else tree.get? l := by
  unfold get? put
  rw [Keyed.get?_put]
  by_cases hl : l = location
  · simp [hl, hne]
  · simp [hl, Ne.symm hl]

section Growth

/-- Directories stay directories, and nothing is taken away. -/
structure Grows (tree tree' : FileTree) : Prop where
  current : tree'.current = tree.current
  directory : ∀ l, tree.get? l = some .directory → tree'.get? l = some .directory
  present : ∀ l, (tree.get? l).isSome → (tree'.get? l).isSome

/-- All that is new are directories. -/
def AddsDirectories (tree tree' : FileTree) : Prop :=
  ∀ l, tree'.get? l = tree.get? l ∨ tree.get? l = none ∧ tree'.get? l = some .directory

theorem grows_put (hne : location ≠ []) (h : tree.get? location ≠ some .directory) (node : Node) :
    Grows tree (tree.put location node) := by
  refine ⟨rfl, ?_, ?_⟩
  · intro l hl
    have hl' : l ≠ location := by
      rintro rfl
      exact h hl
    rw [get?_put tree hne, if_neg hl', hl]
  · intro l hl
    rw [get?_put tree hne]
    split
    · rfl
    · exact hl

theorem AddsDirectories.refl (tree : FileTree) : AddsDirectories tree tree := fun _ => Or.inl rfl

theorem AddsDirectories.trans {tree'' : FileTree} (h : AddsDirectories tree tree')
    (h' : AddsDirectories tree' tree'') : AddsDirectories tree tree'' := by
  intro l
  rcases h' l with heq' | ⟨hnone', hdir'⟩
  · rw [heq']
    exact h l
  · rcases h l with heq | ⟨hnone, hdir⟩
    · exact Or.inr ⟨heq ▸ hnone', hdir'⟩
    · exact Or.inr ⟨hnone, hdir'⟩

theorem addsDirectories_put (h : tree.get? location = none) :
    AddsDirectories tree (tree.put location .directory) := by
  have hne : location ≠ [] := by
    rintro rfl
    cases h
  intro l
  rw [get?_put tree hne]
  split
  · next hl => exact Or.inr ⟨hl ▸ h, rfl⟩
  · exact Or.inl rfl

end Growth

section Steps

theorem step_stay (hstay : piece = [] ∨ piece = ['.']) : tree.step location piece = .ok parent ↔
    tree.get? location = some .directory ∧ parent = location := by
  unfold step
  split
  · next h => simp [h, hstay, eq_comm]
  · next h => simp [h]
  · next h => simp [h]

theorem step_eq_ok_iff : tree.step location piece = .ok parent ↔
    tree.get? location = some .directory ∧
      ((piece = [] ∨ piece = ['.']) ∧ parent = location ∨
        piece = ['.', '.'] ∧ parent = location.dropLast ∨
        piece ∉ [[], ['.'], ['.', '.']] ∧ Text.byteOffset piece piece.length ≤ maxName ∧
          (tree.get? (location ++ [piece])).isSome ∧ parent = location ++ [piece]) := by
  unfold step
  split
  · next h =>
    simp only [h, true_and, List.mem_cons, List.not_mem_nil, or_false, not_or]
    split
    · next hstay =>
      constructor
      · rintro ⟨⟩
        exact Or.inl ⟨hstay, rfl⟩
      · rintro (⟨-, rfl⟩ | ⟨rfl, -⟩ | ⟨⟨hnil, hdot, -⟩, -⟩)
        · rfl
        · simp at hstay
        · exact absurd hstay (not_or.2 ⟨hnil, hdot⟩)
    · next hstay =>
      simp only [hstay, false_and, false_or]
      split
      · next hup =>
        simp only [hup, true_and, not_true_eq_false, and_false, false_and, or_false]
        rw [Except.ok.injEq, eq_comm]
      · next hup =>
        simp only [hup, false_and, false_or, not_or.1 hstay, not_false_eq_true, true_and]
        split
        · next hlong => simp [Nat.not_le.2 hlong]
        · next hfits =>
          simp only [Nat.not_lt.1 hfits, true_and]
          split
          · next hsome => simp [hsome, eq_comm]
          · next hsome => simp [hsome]
  · next h => simp [h]
  · next h => simp [h]

theorem Grows.step (h : Grows tree tree') (hs : tree.step location piece = .ok parent) :
    tree'.step location piece = .ok parent := by
  rw [step_eq_ok_iff] at hs ⊢
  refine ⟨h.directory _ hs.1, hs.2.imp_right (Or.imp_right ?_)⟩
  rintro ⟨hpiece, hfits, hsome, hparent⟩
  exact ⟨hpiece, hfits, h.present _ hsome, hparent⟩

theorem Grows.foldlM_step (h : Grows tree tree') {pieces : List Text}
    (hs : pieces.foldlM tree.step location = .ok parent) :
    pieces.foldlM tree'.step location = .ok parent := by
  induction pieces generalizing location with
  | nil => exact hs
  | cons piece pieces ih =>
    rw [List.foldlM_cons] at hs ⊢
    obtain ⟨next, hnext, hs⟩ := bind_eq_ok_iff.1 hs
    exact bind_eq_ok_iff.2 ⟨next, h.step hnext, ih hs⟩

theorem Grows.resolve (h : Grows tree tree') (hr : tree.resolve path = .ok location) :
    tree'.resolve path = .ok location := by
  unfold FileTree.resolve start at hr ⊢
  split at hr
  · cases hr
  · next hpath =>
    rw [if_neg hpath, h.current]
    exact h.foldlM_step hr

theorem ne_nil_of_resolve (h : tree.resolve path = .ok location) : path ≠ [] := by
  rintro rfl
  cases h

theorem resolve_eq (hne : path ≠ []) :
    tree.resolve path = (Text.split '/' path).foldlM tree.step (tree.start path) :=
  if_neg (by simpa using hne)

theorem start_append (hne : path ≠ []) (rest : Text) :
    tree.start (path ++ rest) = tree.start path := by
  obtain ⟨c, path, rfl⟩ := List.exists_cons_of_ne_nil hne
  rfl

theorem resolve_append {directory : Text} (hne : directory ≠ []) (rest : Text) :
    tree.resolve (directory ++ '/' :: rest) =
      tree.resolve directory >>= (Text.split '/' rest).foldlM tree.step := by
  rw [resolve_eq (by simp [hne]), resolve_eq hne, start_append hne, Text.split_append,
    List.foldlM_append]

theorem resolve_append_name {directory name : Text} (hne : directory ≠ []) (hname : '/' ∉ name) :
    tree.resolve (directory ++ '/' :: name) =
      tree.resolve directory >>= fun parent => tree.step parent name := by
  rw [resolve_append hne, Text.split_of_not_mem hname]
  simp

theorem resolve_name {name : Text} (hne : name ≠ []) (hname : '/' ∉ name) :
    tree.resolve name = tree.step tree.current name := by
  have hstart : tree.start name = tree.current :=
    if_neg fun habs => hname (List.mem_of_head? (beq_iff_eq.1 habs))
  rw [resolve_eq hne, hstart, Text.split_of_not_mem hname]
  simp

theorem resolve_slash_name {name : Text} (hname : '/' ∉ name) :
    tree.resolve ('/' :: name) = tree.step [] name := by
  have hroot : tree.step [] [] = .ok [] := (step_stay (.inl rfl)).2 ⟨get?_nil tree, rfl⟩
  have hstart : tree.start ('/' :: name) = [] := rfl
  rw [resolve_eq (List.cons_ne_nil _ _), hstart, Text.split_cons_sep, Text.split_of_not_mem hname,
    List.foldlM_cons, hroot]
  exact bind_pure (tree.step [] name)

theorem resolve_append_replicate (h : tree.resolve path = .ok location)
    (hdir : tree.get? location = some .directory) (n : Nat) :
    tree.resolve (path ++ List.replicate n '/') = .ok location := by
  induction n with
  | zero => rwa [List.replicate_zero, List.append_nil]
  | succ n ih =>
    rw [List.replicate_succ', ← List.append_assoc,
      resolve_append_name (by simp [ne_nil_of_resolve h]) List.not_mem_nil, ih]
    exact (step_stay (.inl rfl)).2 ⟨hdir, rfl⟩

end Steps

section New

/-- A name that stands for an entry of a directory and leads nowhere else. -/
structure IsEntryName (name : Text) : Prop where
  slash_not_mem : '/' ∉ name
  not_step : name ∉ [[], ['.'], ['.', '.']]

theorem resolveParent_name (hname : '/' ∉ path) :
    tree.resolveParent path = tree.resolve ['.'] := by
  simp [resolveParent, Path.splitLast_of_not_mem hname]

theorem resolveParent_append {name : Text} (directory : Text) (hname : '/' ∉ name) :
    tree.resolveParent (directory ++ '/' :: name) = tree.resolve (directory ++ ['/']) := by
  simp [resolveParent, Path.splitLast_append hname]

/-- The part of a path before its last name leads to a directory, from which one step is left in
every tree that has more. -/
theorem resolve_of_resolveParent (hne : path ≠ []) (h : tree.resolveParent path = .ok parent)
    (hg : Grows tree tree') :
    tree.get? parent = some .directory ∧
      tree'.resolve path = tree'.step parent (Path.splitLast path).2 := by
  rcases Path.eq_name_or_append path with hname | ⟨directory, name, hname, rfl⟩
  · rw [resolveParent_name hname, resolve_name (List.cons_ne_nil _ _) (by decide)] at h
    obtain ⟨hdir, rfl⟩ := (step_stay (.inr rfl)).1 h
    rw [Path.splitLast_of_not_mem hname, resolve_name hne hname, hg.current]
    exact ⟨hdir, rfl⟩
  · rw [resolveParent_append directory hname] at h
    rw [Path.splitLast_append hname]
    rcases eq_or_ne directory [] with rfl | hdirectory
    · rw [List.nil_append, resolve_slash_name List.not_mem_nil] at h
      obtain ⟨hdir, rfl⟩ := (step_stay (.inl rfl)).1 h
      exact ⟨hdir, resolve_slash_name hname⟩
    · rw [resolve_append_name hdirectory List.not_mem_nil] at h
      obtain ⟨found, hfound, hstep⟩ := bind_eq_ok_iff.1 h
      obtain ⟨hdir, rfl⟩ := (step_stay (.inl rfl)).1 hstep
      rw [resolve_append_name hdirectory hname, hg.resolve hfound]
      exact ⟨hdir, rfl⟩

theorem newLocation_eq_ok_iff : tree.newLocation path = .ok location ↔
    ∃ parent, tree.resolveParent path = .ok parent ∧
      (tree.step parent (Path.splitLast path).2 = .ok location ∨
        tree.step parent (Path.splitLast path).2 = .error .notFound ∧
          location = parent ++ [(Path.splitLast path).2]) := by
  unfold newLocation
  rw [bind_eq_ok_iff]
  refine exists_congr fun parent => and_congr_right fun _ => ?_
  dsimp only
  split
  · next hs => simp [hs, eq_comm, pure, Except.pure]
  · next hs =>
    constructor
    · exact Or.inl
    · rintro (hok | ⟨herror, -⟩)
      · exact hok
      · exact absurd herror hs

theorem step_eq_notFound (hdir : tree.get? parent = some .directory)
    (h : tree.step parent piece = .error .notFound) :
    piece ∉ [[], ['.'], ['.', '.']] ∧ Text.byteOffset piece piece.length ≤ maxName := by
  simp only [step, hdir] at h
  split at h
  · cases h
  · next hstay =>
    split at h
    · cases h
    · next hup =>
      split at h
      · cases h
      · next hfits => exact ⟨by simp_all, Nat.not_lt.1 hfits⟩

theorem get?_of_newLocation_nil (h : tree.newLocation [] = .ok location) :
    tree.get? location = some .directory := by
  obtain ⟨parent, hparent, hstep⟩ := newLocation_eq_ok_iff.1 h
  rw [resolveParent_name List.not_mem_nil, resolve_name (List.cons_ne_nil _ _) (by decide)]
    at hparent
  obtain ⟨hdir, rfl⟩ := (step_stay (.inr rfl)).1 hparent
  rcases hstep with hok | ⟨hnot, -⟩
  · obtain ⟨-, rfl⟩ := (step_stay (.inl rfl)).1 hok
    exact hdir
  · cases hnot.symm.trans ((step_stay (.inl rfl)).2 ⟨hdir, rfl⟩)

theorem makeDirectory_eq_ok (h : tree.makeDirectory path = .ok tree') :
    ∃ location, tree.get? location = none ∧ tree' = tree.put location .directory ∧
      tree'.resolve path = .ok location := by
  unfold makeDirectory at h
  obtain ⟨location, hloc, h⟩ := bind_eq_ok_iff.1 h
  split at h
  · cases h
  · next hnone =>
    rw [Bool.not_eq_true, Option.isSome_eq_false_iff, Option.isNone_iff_eq_none] at hnone
    obtain rfl := Except.ok.inj h
    have hne : location ≠ [] := by
      rintro rfl
      cases hnone
    have hput : (tree.put location .directory).get? location = some .directory := by
      rw [get?_put tree hne, if_pos rfl]
    have hg : Grows tree (tree.put location .directory) := grows_put hne (by simp [hnone]) _
    refine ⟨location, hnone, rfl, ?_⟩
    obtain ⟨parent, hparent, hstep⟩ := newLocation_eq_ok_iff.1 hloc
    have hpath : Path.trimSlashes path ≠ [] := by
      intro hnil
      rw [hnil] at hloc
      rw [get?_of_newLocation_nil hloc] at hnone
      cases hnone
    obtain ⟨hdir, hresolve⟩ := resolve_of_resolveParent hpath hparent hg
    obtain ⟨-, n, hn⟩ := Text.exists_replicate_dropEndWhile '/' path
    rw [hn]
    refine resolve_append_replicate ?_ hput n
    refine hresolve.trans ?_
    rcases hstep with hok | ⟨hnot, rfl⟩
    · exact hg.step hok
    · obtain ⟨hname, hfits⟩ := step_eq_notFound hdir hnot
      refine step_eq_ok_iff.2 ⟨hg.directory _ hdir, Or.inr (Or.inr ⟨hname, hfits, ?_, rfl⟩)⟩
      rw [hput]
      rfl

def HasDirectory (tree : FileTree) (path : Text) : Prop :=
  ∃ location, tree.resolve path = .ok location ∧ tree.get? location = some .directory

theorem hasDirectory_of_isDirectory (h : tree.isDirectory path = true) :
    tree.HasDirectory path := by
  unfold isDirectory node? at h
  cases hr : tree.resolve path with
  | error e => simp [hr] at h
  | ok location =>
    rw [hr] at h
    refine ⟨location, hr, ?_⟩
    dsimp only at h
    split at h
    · assumption
    · cases h

theorem settle_makeDirectory_eq_ok
    (h : makePath.settle tree path (tree.makeDirectory path) = .ok tree') :
    AddsDirectories tree tree' ∧ tree'.HasDirectory path := by
  unfold makePath.settle at h
  split at h
  · next made hmade =>
    obtain rfl := Except.ok.inj h
    obtain ⟨location, hnone, rfl, hresolve⟩ := makeDirectory_eq_ok hmade
    refine ⟨addsDirectories_put hnone, location, hresolve, ?_⟩
    rw [get?_put tree (by rintro rfl; cases hnone), if_pos rfl]
  · split at h
    · next hdir =>
      obtain rfl := Except.ok.inj h
      exact ⟨.refl _, hasDirectory_of_isDirectory hdir⟩
    · cases h

theorem makePath_eq_ok {parents : List Text} (h : tree.makePath path parents = .ok tree') :
    AddsDirectories tree tree' ∧ tree'.HasDirectory path := by
  induction parents generalizing tree tree' path with
  | nil => exact settle_makeDirectory_eq_ok h
  | cons parent parents ih =>
    unfold makePath at h
    split at h
    · obtain ⟨between, hbetween, h⟩ := bind_eq_ok_iff.1 h
      obtain ⟨hadds, hhas⟩ := settle_makeDirectory_eq_ok h
      exact ⟨(ih hbetween).1.trans hadds, hhas⟩
    · exact settle_makeDirectory_eq_ok h

/-- Making directories adds nothing but directories, and the path leads to one of them. -/
theorem makeDirectories_eq_ok (h : tree.makeDirectories path = .ok tree') :
    AddsDirectories tree tree' ∧ tree'.HasDirectory path :=
  makePath_eq_ok h

end New

section Write

variable {directory name : Text}

theorem resolveParent_join (hname : '/' ∉ name) (h : tree.resolve directory = .ok location)
    (hdir : tree.get? location = some .directory) :
    tree.resolveParent (Path.join directory name) = .ok location ∧
      (Path.splitLast (Path.join directory name)).2 = name := by
  have hslash : ∀ d : Text, tree.resolve (d ++ ['/']) = .ok location →
      tree.resolveParent (d ++ '/' :: name) = .ok location ∧
        (Path.splitLast (d ++ '/' :: name)).2 = name := by
    intro d hd
    rw [resolveParent_append d hname, Path.splitLast_append hname]
    exact ⟨hd, rfl⟩
  unfold Path.join
  split
  · next hlast => exact absurd (List.getLast?_eq_none_iff.1 hlast) (ne_nil_of_resolve h)
  · next hlast =>
    obtain ⟨d, rfl⟩ := List.getLast?_eq_some_iff.1 hlast
    rw [List.append_assoc]
    exact hslash d h
  · exact hslash directory (resolve_append_replicate h hdir 1)

/-- Writing a file in a directory puts it right below the directory, unless its name is too long or
that of a directory. -/
theorem write_join (hname : IsEntryName name) (h : tree.resolve directory = .ok location)
    (hdir : tree.get? location = some .directory) (content : ByteArray) :
    tree.write (Path.join directory name) content =
      if maxName < Text.byteOffset name name.length then .error .nameTooLong
      else if tree.get? (location ++ [name]) = some .directory then .error .isDirectory
      else .ok (tree.put (location ++ [name]) (.file content)) := by
  obtain ⟨hparent, hlast⟩ := resolveParent_join hname.slash_not_mem h hdir
  have hnot := hname.not_step
  simp only [List.mem_cons, List.not_mem_nil, or_false, not_or] at hnot
  have hnew : tree.newLocation (Path.join directory name) =
      if maxName < Text.byteOffset name name.length then .error .nameTooLong
      else .ok (location ++ [name]) := by
    unfold newLocation
    rw [hparent, hlast]
    simp only [step, hdir, hnot, false_or, ↓reduceIte, bind, Except.bind]
    split_ifs <;> rfl
  unfold write
  rw [hnew]
  split
  · rfl
  · simp only [bind, Except.bind]
    split
    · next heq =>
      rw [if_pos heq]
      rfl
    · next hne =>
      rw [if_neg fun heq => hne heq]
      rfl

end Write

end FileTree

end ApiNotes
