import ApiNotes.Proofs.FileTrees

/-! # Where paths lead

Where a path leads can be read off its components: a slash at the start goes to the root, a name
goes down and two dots go back up. A path without dots among its components is determined by where
it starts and where it leads.
-/

namespace ApiNotes

namespace Path

/-- There is no dot at the start of the path, and there are no two dots in it. -/
def IsDirect (path : Text) : Prop := ∀ c ∈ components path, c ≠ .current ∧ c ≠ .parent

variable {path name : Text} {current : Location}

theorem foldl_follow_names (location : Location) (names : List Text) :
    (names.map Component.name).foldl follow location = location ++ names := by
  induction names generalizing location with
  | nil => simp
  | cons n names ih => simp [follow, ih]

theorem component?_eq_none (h : name = [] ∨ name = ['.']) : component? name = none := if_pos h

theorem component?_eq_name (h : name ∉ [[], ['.'], ['.', '.']]) :
    component? name = some (.name name) := by
  simp only [List.mem_cons, List.not_mem_nil, or_false, not_or] at h
  simp [component?, h]

def leading (path : Text) : List Component :=
  if isAbsolute path then [.root]
  else if (Text.split '/' path).head? = some ['.'] then [.current] else []

theorem components_eq (path : Text) :
    components path = leading path ++ (Text.split '/' path).filterMap component? := rfl

theorem isAbsolute_append (hne : path ≠ []) (rest : Text) :
    isAbsolute (path ++ rest) = isAbsolute path := by
  obtain ⟨c, path, rfl⟩ := List.exists_cons_of_ne_nil hne
  rfl

theorem isAbsolute_of_not_mem (h : '/' ∉ path) : isAbsolute path = false :=
  beq_eq_false_iff_ne.2 fun hhead => h (List.mem_of_head? hhead)

theorem isAbsolute_of_components (h : components path = [.current]) : isAbsolute path = false := by
  rw [components_eq, leading] at h
  split at h
  · simp at h
  · next hroot => exact Bool.eq_false_iff.2 hroot

theorem leading_append (hne : path ≠ []) (rest : Text) :
    leading (path ++ '/' :: rest) = leading path := by
  obtain ⟨c, path, rfl⟩ := List.exists_cons_of_ne_nil hne
  unfold leading
  rw [Text.split_append]
  rfl

theorem components_append (hne : path ≠ []) (h : '/' ∉ name) :
    components (path ++ '/' :: name) = components path ++ (component? name).toList := by
  rw [components_eq, components_eq, leading_append hne, Text.split_append,
    Text.split_of_not_mem h, List.filterMap_append, List.append_assoc]
  cases hc : component? name <;> simp [hc]

theorem components_cons_slash (h : '/' ∉ name) :
    components ('/' :: name) = .root :: (component? name).toList := by
  rw [components_eq, Text.split_cons_sep, Text.split_of_not_mem h]
  cases hc : component? name <;> simp [leading, isAbsolute, hc, component?_eq_none]

theorem join_ne_nil (hne : path ≠ []) (name : Text) : join path name ≠ [] := by
  unfold join
  split
  · next hlast => exact (hne (List.getLast?_eq_none_iff.1 hlast)).elim
  · simp [hne]
  · simp

theorem components_join (hne : path ≠ []) (h : '/' ∉ name) :
    components (join path name) = components path ++ (component? name).toList := by
  unfold join
  split
  · next hlast => exact (hne (List.getLast?_eq_none_iff.1 hlast)).elim
  · next hlast =>
    obtain ⟨d, rfl⟩ := List.getLast?_eq_some_iff.1 hlast
    rw [List.append_assoc, List.singleton_append]
    by_cases hd : d = []
    · rw [hd, List.nil_append, List.nil_append, components_cons_slash h,
        components_cons_slash List.not_mem_nil]
      rfl
    · rw [components_append hd h, components_append hd List.not_mem_nil,
        component?_eq_none (Or.inl rfl), Option.toList_none, List.append_nil]
  · exact components_append hne h

theorem components_of_not_mem (h : '/' ∉ name) :
    components name = if name = ['.'] then [.current] else (component? name).toList := by
  rw [components_eq, leading, isAbsolute_of_not_mem h, if_neg Bool.false_ne_true,
    Text.split_of_not_mem h]
  by_cases hdot : name = ['.']
  · rw [hdot]
    rfl
  · cases hc : component? name <;> simp [hdot, hc]

theorem isAbsolute_join (hne : path ≠ []) (name : Text) :
    isAbsolute (join path name) = isAbsolute path := by
  unfold join
  split
  · next hlast => exact (hne (List.getLast?_eq_none_iff.1 hlast)).elim
  · exact isAbsolute_append hne name
  · exact isAbsolute_append hne _

theorem ne_of_mem_component? (hup : name ≠ ['.', '.']) :
    ∀ c ∈ (component? name).toList, c ≠ .current ∧ c ≠ .parent := by
  intro c hc
  by_cases hstay : name = [] ∨ name = ['.']
  · simp [component?_eq_none hstay] at hc
  · have hname : name ∉ [[], ['.'], ['.', '.']] := by simp_all
    obtain rfl : c = .name name := by simpa [component?_eq_name hname, eq_comm] using hc
    exact ⟨nofun, nofun⟩

theorem IsDirect.join (h : IsDirect path) (hne : path ≠ []) (hslash : '/' ∉ name)
    (hup : name ≠ ['.', '.']) : IsDirect (join path name) := by
  unfold IsDirect
  rw [components_join hne hslash, List.forall_mem_append]
  exact ⟨h, ne_of_mem_component? hup⟩

theorem isDirect_of_split (hcurrent : (components path).head? ≠ some .current)
    (hup : ∀ piece ∈ Text.split '/' path, piece ≠ ['.', '.']) : IsDirect path := by
  intro c hc
  rw [components_eq] at hcurrent hc
  rcases List.mem_append.1 hc with hc | hc
  · unfold leading at hcurrent hc
    split at hc
    · obtain rfl := List.mem_singleton.1 hc
      exact ⟨nofun, nofun⟩
    · next hroot =>
      rw [if_neg hroot] at hcurrent
      split at hc
      · next hdot => simp [hdot] at hcurrent
      · cases hc
  · obtain ⟨piece, hpiece, hcomponent⟩ := List.mem_filterMap.1 hc
    exact ne_of_mem_component? (hup piece hpiece) c (Option.mem_toList.2 hcomponent)

theorem exists_names_of_pieces {pieces : List Text}
    (h : Component.parent ∉ pieces.filterMap component?) :
    ∃ names : List Text, pieces.filterMap component? = names.map .name := by
  induction pieces with
  | nil => exact ⟨[], rfl⟩
  | cons piece pieces ih =>
    by_cases hstay : piece = [] ∨ piece = ['.']
    · rw [List.filterMap_cons_none (component?_eq_none hstay)] at h ⊢
      exact ih h
    · by_cases hup : piece = ['.', '.']
      · rw [hup] at h
        exact (h List.mem_cons_self).elim
      · have hname : component? piece = some (.name piece) := component?_eq_name (by simp_all)
        rw [List.filterMap_cons_some hname] at h ⊢
        obtain ⟨names, hnames⟩ := ih fun hmem => h (List.mem_cons_of_mem _ hmem)
        exact ⟨piece :: names, by rw [hnames, List.map_cons]⟩

theorem IsDirect.exists_names (h : IsDirect path) : ∃ names : List Text,
    components path = (if isAbsolute path then [.root] else []) ++ names.map .name := by
  rw [IsDirect, components_eq] at h
  have hleading : leading path = if isAbsolute path then [.root] else [] := by
    unfold leading at h ⊢
    split
    · rfl
    · next hroot =>
      rw [if_neg hroot] at h
      split
      · next hdot => exact absurd rfl (h .current (by simp [hdot])).1
      · rfl
  obtain ⟨names, hnames⟩ := exists_names_of_pieces fun hmem =>
    (h .parent (List.mem_append_right _ hmem)).2 rfl
  exact ⟨names, by rw [components_eq, hleading, hnames]⟩

/-- A direct path is determined by where it starts and where it leads. -/
theorem components_eq_of_spelled {p q : Text} (hp : IsDirect p) (hq : IsDirect q)
    (hroot : isAbsolute p = isAbsolute q) (h : spelled current p = spelled current q) :
    components p = components q := by
  obtain ⟨ns, hns⟩ := hp.exists_names
  obtain ⟨ms, hms⟩ := hq.exists_names
  rw [spelled, spelled, hns, hms, hroot, List.foldl_append, List.foldl_append,
    foldl_follow_names, foldl_follow_names] at h
  rw [hns, hms, hroot, List.append_cancel_left h]

end Path

namespace FileTree

variable {tree : FileTree} {location : Location} {path : Text}

theorem foldlM_step_eq_ok {pieces : List Text} {start : Location}
    (h : pieces.foldlM tree.step start = .ok location) :
    location = (pieces.filterMap Path.component?).foldl Path.follow start := by
  induction pieces generalizing start with
  | nil => exact (Except.ok.inj h).symm
  | cons piece pieces ih =>
    rw [List.foldlM_cons] at h
    obtain ⟨next, hnext, h⟩ := bind_eq_ok_iff.1 h
    rw [ih h]
    obtain ⟨-, ⟨hstay, rfl⟩ | ⟨rfl, rfl⟩ | ⟨hname, -, -, rfl⟩⟩ := step_eq_ok_iff.1 hnext
    · rw [List.filterMap_cons_none (Path.component?_eq_none hstay)]
    · rfl
    · rw [List.filterMap_cons_some (Path.component?_eq_name hname)]
      rfl

theorem foldl_leading (tree : FileTree) (path : Text) :
    (Path.leading path).foldl Path.follow tree.current = tree.start path := by
  unfold Path.leading start
  split
  · rfl
  · split
    · rfl
    · rfl

/-- A path that leads somewhere leads where its components say. -/
theorem resolve_eq_spelled (h : tree.resolve path = .ok location) :
    location = Path.spelled tree.current path := by
  rw [resolve_eq (ne_nil_of_resolve h)] at h
  rw [foldlM_step_eq_ok h, Path.spelled, Path.components_eq, List.foldl_append, foldl_leading]

theorem isDirectory_start (h : tree.resolve path = .ok location) :
    tree.get? (tree.start path) = some .directory := by
  rw [resolve_eq (ne_nil_of_resolve h), Text.split, List.foldlM_cons] at h
  obtain ⟨next, hnext, -⟩ := bind_eq_ok_iff.1 h
  exact (step_eq_ok_iff.1 hnext).1

theorem content?_eq_some {content : ByteArray} (h : tree.content? path = some content) :
    tree.resolve path = .ok (Path.spelled tree.current path) ∧
      tree.get? (Path.spelled tree.current path) = some (.file content) := by
  unfold content? node? at h
  cases hr : tree.resolve path with
  | error e => simp [hr] at h
  | ok location =>
    obtain rfl := resolve_eq_spelled hr
    rw [hr] at h
    dsimp only at h
    split at h
    · next hget =>
      obtain rfl := Option.some.inj h
      exact ⟨rfl, hget⟩
    · cases h

theorem isFile_iff : tree.isFile path = true ↔ ∃ content, tree.content? path = some content :=
  Option.isSome_iff_exists

/-- A tree as it can be on a disk: every name in it is that of an entry. -/
def Named (tree : FileTree) : Prop :=
  ∀ e ∈ tree.entries, ∀ name ∈ e.1, IsEntryName name

theorem isEntryName_of_mem_children {name : Text} (hnamed : tree.Named)
    (h : name ∈ tree.children location) : IsEntryName name := by
  simp only [children, List.mem_mergeSort, List.mem_filterMap] at h
  obtain ⟨e, he, hname⟩ := h
  unfold nameIn? at hname
  split at hname
  · next last hlast =>
    split at hname
    · obtain rfl := Option.some.inj hname
      exact hnamed e he _ (List.mem_of_getLast? hlast)
    · cases hname
  · cases hname

end FileTree

end ApiNotes
