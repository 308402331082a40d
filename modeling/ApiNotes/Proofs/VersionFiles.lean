import ApiNotes.Command.Run
import ApiNotes.Proofs.FileTrees

/-! # Files of versions

The document of a version goes into a file whose name is made of the version. Names of different
versions may be the same, but then the second document is refused before its file is written. So
each file holds the document that it was written for, and all of them are right below the directory.
-/

namespace ApiNotes

def Failure.isOfFiles : Failure → Bool
  | .noDirectory .. => true
  | .notWritten .. => true
  | _ => false

namespace Run

open FileTree

/-- Documents are in files right below a directory, each in one of its own, and beside these the
tree is as it was. -/
structure Filed (directory : Text) (location : Location) (format : Format) (start : FileTree)
    (ds : List Document) (tree : FileTree) : Prop where
  resolve : tree.resolve directory = .ok location
  isDirectory : tree.get? location = some .directory
  distinct : (ds.map (fileName format)).Nodup
  content : ∀ d ∈ ds, tree.get? (location ++ [fileName format d]) =
    some (.file (format.render d).toBytes)
  others : ∀ l, (∀ d ∈ ds, l ≠ location ++ [fileName format d]) → tree.get? l = start.get? l

/-- Why writing stops before the documents that are left: there are none, the first one has the
file of a document that is written, or its file cannot be written. -/
inductive Stops (format : Format) (written : List Document) :
    List Document → Option Failure → Prop where
  | finished : Stops format written [] none
  | sameFile {d earlier : Document} {rest : List Document} : earlier ∈ written →
      fileName format earlier = fileName format d →
      Stops format written (d :: rest) (some (.sameFile (earlier.version.getD unversioned)
        (d.version.getD unversioned) (fileName format d)))
  | notWritten {d : Document} {rest : List Document} (path : Text) (e : FileError) :
      Stops format written (d :: rest) (some (.notWritten path e))

section Names

variable {version : Option Text} {c : Char}

theorem kept_of_mem_fileStem (h : c ∈ fileStem version) :
    (isAlphanumeric c || ['.', '-', '_'].contains c) = true := by
  unfold fileStem at h
  split at h
  · obtain ⟨d, -, rfl⟩ := List.mem_map.1 h
    split
    · assumption
    · decide +kernel
  · have hall : unversioned.all
        (fun c => isAlphanumeric c || ['.', '-', '_'].contains c) = true := by
      decide +kernel
    exact List.all_eq_true.1 hall c h

theorem kept_of_mem_fileName {format : Format} {d : Document} (h : c ∈ fileName format d) :
    (isAlphanumeric c || ['.', '-', '_'].contains c) = true := by
  have hall : ('.' :: format.extension).all
      (fun c => isAlphanumeric c || ['.', '-', '_'].contains c) = true := by
    cases format <;> decide +kernel
  rcases List.mem_append.1 h with h | h
  · exact kept_of_mem_fileStem h
  · exact List.all_eq_true.1 hall c h

theorem isEntryName_fileName (format : Format) (d : Document) :
    IsEntryName (fileName format d) ∧ '\x00' ∉ fileName format d := by
  refine ⟨⟨fun h => ?_, fun h => ?_⟩, fun h => ?_⟩
  · exact absurd (kept_of_mem_fileName h) (by decide +kernel)
  · have hlen : 2 < (fileName format d).length := by
      unfold fileName
      cases format <;> simp [Format.extension]
    have hshort : ∀ name ∈ [[], ['.'], ['.', '.']], (name : Text).length ≤ 2 := by decide
    exact absurd (hshort _ h) (Nat.not_le.2 hlen)
  · exact absurd (kept_of_mem_fileName h) (by decide +kernel)

end Names

section Writing

variable {directory : Text} {location : Location} {format : Format} {start tree tree' : FileTree}
  {written ds : List Document} {d : Document}

theorem Filed.write (h : Filed directory location format start written tree)
    (hnew : fileName format d ∉ written.map (fileName format))
    (hw : tree.write (Path.join directory (fileName format d)) (format.render d).toBytes =
      .ok tree') :
    Filed directory location format start (written ++ [d]) tree' := by
  rw [write_join (isEntryName_fileName format d).1 h.resolve h.isDirectory] at hw
  split_ifs at hw with hlong hdir
  obtain rfl := Except.ok.inj hw
  have hne : location ++ [fileName format d] ≠ [] := by simp
  have hgrows := grows_put hne hdir (.file (format.render d).toBytes)
  refine ⟨hgrows.resolve h.resolve, hgrows.directory _ h.isDirectory, ?_, ?_, ?_⟩
  · rw [List.map_append, List.nodup_append]
    refine ⟨h.distinct, by simp, ?_⟩
    rintro name hname _ hd rfl
    exact hnew (List.mem_singleton.1 hd ▸ hname)
  · intro e he
    rw [get?_put _ hne]
    rcases List.mem_append.1 he with he | he
    · have hother : fileName format e ≠ fileName format d :=
        fun heq => hnew (heq ▸ List.mem_map_of_mem he)
      rw [if_neg (by simpa using hother)]
      exact h.content e he
    · rw [List.mem_singleton.1 he, if_pos rfl]
  · intro l hl
    rw [get?_put _ hne, if_neg (hl d (by simp))]
    exact h.others l fun e he => hl e (List.mem_append_left _ he)

/-- The documents before the one at which writing stops are filed. -/
theorem Filed.writeDocuments {after : FileTree} {failure : Option Failure}
    (h : Filed directory location format start written tree)
    (hw : writeDocuments directory format written ds tree = (after, failure)) :
    ∃ done rest, ds = done ++ rest ∧
      Filed directory location format start (written ++ done) after ∧
      Stops format (written ++ done) rest failure := by
  induction ds generalizing written tree with
  | nil =>
    obtain ⟨rfl, rfl⟩ := Prod.mk.inj hw
    exact ⟨[], [], rfl, by simpa using h, .finished⟩
  | cons d ds ih =>
    unfold Run.writeDocuments at hw
    dsimp only at hw
    split at hw
    · next earlier hfind =>
      obtain ⟨rfl, rfl⟩ := Prod.mk.inj hw
      refine ⟨[], d :: ds, rfl, by simpa using h, ?_⟩
      rw [List.append_nil]
      exact .sameFile (List.mem_of_find?_eq_some hfind) (by simpa using List.find?_some hfind)
    · next hfind =>
      split at hw
      · obtain ⟨rfl, rfl⟩ := Prod.mk.inj hw
        refine ⟨[], d :: ds, rfl, by simpa using h, .notWritten _ _⟩
      · next tree' htree' =>
        have hnew : fileName format d ∉ written.map (fileName format) := by
          intro hm
          obtain ⟨e, he, heq⟩ := List.mem_map.1 hm
          exact absurd heq (by simpa using List.find?_eq_none.1 hfind e he)
        obtain ⟨done, rest, rfl, hfiled, hstops⟩ := ih (h.write hnew htree') hw
        refine ⟨d :: done, rest, rfl, ?_, ?_⟩
        · simpa using hfiled
        · simpa using hstops

end Writing

/-- If no operation on files fails, the directory is made and documents are filed in it, all of them
or those before the first one with the file of another. So all are filed exactly if they have
different files, and every file is right below the directory. -/
theorem writeAll_one_file_each (directory : Text) (format : Format) (ds : List Document)
    (tree : FileTree)
    (hfiles : ∀ f, (writeAll directory format ds tree).2 = some f → f.isOfFiles = false) :
    let after := (writeAll directory format ds tree).1
    let failure := (writeAll directory format ds tree).2
    (∃ made location, tree.makeDirectories directory = .ok made ∧ AddsDirectories tree made ∧
      (failure = none ∧ Filed directory location format made ds after ∨
        ∃ before d rest earlier, ds = before ++ d :: rest ∧
          Filed directory location format made before after ∧
          earlier ∈ before ∧ fileName format earlier = fileName format d ∧
          failure = some (.sameFile (earlier.version.getD unversioned)
            (d.version.getD unversioned) (fileName format d)))) ∧
    (failure = none ↔ (ds.map (fileName format)).Nodup) ∧
    ∀ d, IsEntryName (fileName format d) ∧ '\x00' ∉ fileName format d := by
  obtain ⟨⟨after, failure⟩, h⟩ : ∃ result, writeAll directory format ds tree = result := ⟨_, rfl⟩
  rw [h] at hfiles ⊢
  unfold writeAll at h
  split at h
  · next e he =>
    obtain ⟨-, rfl⟩ := Prod.mk.inj h
    cases hfiles _ rfl
  · next made hmade =>
    obtain ⟨hadds, location, hresolve, hdir⟩ := makeDirectories_eq_ok hmade
    have hstart : Filed directory location format made [] made :=
      ⟨hresolve, hdir, List.nodup_nil, nofun, fun _ _ => rfl⟩
    obtain ⟨done, rest, rfl, hfiled, hstops⟩ := hstart.writeDocuments h
    rw [List.nil_append] at hfiled hstops
    refine ⟨⟨made, location, hmade, hadds, ?_⟩, ?_, isEntryName_fileName format⟩
    · cases hstops with
      | finished => exact Or.inl ⟨rfl, by simpa using hfiled⟩
      | sameFile hm heq => exact Or.inr ⟨done, _, _, _, rfl, hfiled, hm, heq, rfl⟩
      | notWritten path e => cases hfiles _ rfl
    · cases hstops with
      | finished => simpa using hfiled.distinct
      | @sameFile d earlier rest hm heq =>
        simp only [reduceCtorEq, false_iff, List.map_append, List.map_cons]
        intro hnodup
        obtain ⟨-, -, hapart⟩ := List.nodup_append.1 hnodup
        exact hapart _ (List.mem_map_of_mem hm) _ List.mem_cons_self heq
      | notWritten path e => cases hfiles _ rfl

/-- Three versions with files of their own, one of which is `1_0.md` for the version `1/0`, and two
versions that would share this file. -/
theorem writeAll_one_file_each_of_slash :
    let document := fun version : Option Text =>
      ({ title := "T".toList, baseUri := none, version, resources := .empty } : Document)
    let first := document (some "1/0".toList)
    let write := fun ds => writeAll "out".toList .markdown ds .empty
    let apart := [first, document none, document (some "2".toList)]
    let shared := [first, document (some "1_0".toList)]
    (∀ ds ∈ [apart, shared], ∀ f, (write ds).2 = some f → f.isOfFiles = false) ∧
      (write apart).2 = none ∧
      (write apart).1.get? ["out".toList, "1_0.md".toList] =
        some (.file (Format.markdown.render first).toBytes) ∧
      (write shared).2 ≠ none := by
  intro document first write apart shared
  have hall : ∀ ds ∈ [apart, shared], (write ds).2.all (!·.isOfFiles) = true := by decide +kernel
  have hfiles : ∀ ds ∈ [apart, shared], ∀ f, (write ds).2 = some f → f.isOfFiles = false := by
    intro ds hds f hf
    simpa [hf] using hall ds hds
  have hnames : ∀ ds ∈ [apart, shared],
      (write ds).2 = none ↔ (ds.map (fileName .markdown)).Nodup := fun ds hds =>
    (writeAll_one_file_each _ _ ds _ (hfiles ds hds)).2.1
  have hnone : (write apart).2 = none := (hnames apart (by simp)).2 (by decide +kernel)
  obtain ⟨⟨made, location, -, -, hend⟩, -⟩ :=
    writeAll_one_file_each _ _ apart _ (hfiles apart (by simp))
  refine ⟨hfiles, hnone, ?_, fun h => absurd ((hnames shared (by simp)).1 h) (by decide +kernel)⟩
  rcases hend with ⟨-, hfiled⟩ | ⟨_, _, _, _, -, -, -, -, hsome⟩
  · have hlocation : (write apart).1.resolve "out".toList = .ok ["out".toList] := by decide +kernel
    obtain rfl := Except.ok.inj (hfiled.resolve.symm.trans hlocation)
    have hname : fileName .markdown first = "1_0.md".toList := by decide +kernel
    have hcontent := hfiled.content first List.mem_cons_self
    rwa [hname] at hcontent
  · cases hnone.symm.trans hsome

end Run

end ApiNotes
