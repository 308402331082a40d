import Mathlib.Data.List.FinRange
import Mathlib.Data.List.Sort
import ApiNotes.Corpus
import ApiNotes.Proofs.Keyed

/-! # Where definitions and resources stand

The table of definitions depends on the sources that define something, in their order, and the
survey on that table and on the sources that have a resource. So the sources of a corpus may change
places as long as the sources of each of these two kinds stay in order among themselves.
-/

namespace ApiNotes

def isRouteBody (body : Text) : Bool :=
  (TagLine.ofBody body).head?.map TagLine.keyword == some Tag.route.keyword

namespace Source

def hasDefinition (source : Source) : Bool :=
  (Block.bodies source.text).any fun body => (Definition.ofBody? body).isSome

def hasRoute (source : Source) : Bool := (Block.bodies source.text).any isRouteBody

end Source

theorem readBlock_of_not_isRouteBody {body : Text} (h : isRouteBody body = false)
    (table : Definitions) (policy : Policy) :
    readBlock table policy body = ⟨[], .ok none⟩ := by
  have hroute : (TagLine.ofBody body).head?.map TagLine.keyword ≠ some Tag.route.keyword := by
    simpa [isRouteBody] using h
  rw [readBlock]
  exact if_neg hroute

namespace Definitions

theorem entries_foldl_insert (ds : List Definition) (table : Definitions) :
    (ds.foldl insert table).entries =
      ds.foldl (fun entries d => Keyed.put Definition.name d entries) table.entries := by
  induction ds generalizing table with
  | nil => rfl
  | cons d ds ih => exact ih (table.insert d)

theorem get?_foldl_insert (ds : List Definition) (name : Text) :
    (ds.foldl insert empty).get? name = (ds.filter fun d => d.name = name).getLast? := by
  rw [get?, entries_foldl_insert]
  exact Keyed.get?_foldl_put name ds

theorem get?_ofBodies (bodies : List Text) (name : Text) :
    (ofBodies bodies).get? name =
      ((bodies.filterMap Definition.ofBody?).filter fun d => d.name = name).getLast? :=
  get?_foldl_insert _ name

end Definitions

section Rearrangement

variable {α β : Type} {n : Nat}

theorem flatMap_eq_of_filter_eq {p : α → Bool} {f : α → List β} {xs ys : List α}
    (hf : ∀ x, p x = false → f x = []) (h : xs.filter p = ys.filter p) :
    xs.flatMap f = ys.flatMap f := by
  have hfilter : ∀ zs : List α, (zs.filter p).flatMap f = zs.flatMap f := by
    intro zs
    induction zs with
    | nil => rfl
    | cons z zs ih =>
      cases hz : p z with
      | true => simp [hz, ih]
      | false => simp [hz, ih, hf z hz]
  rw [← hfilter xs, h, hfilter ys]

/-- The permutation leaves the elements with a property in order among themselves. -/
def KeepsOrder (σ : Equiv.Perm (Fin n)) (p : Fin n → Bool) : Prop :=
  ∀ i j, i < j → p (σ i) = true → p (σ j) = true → σ i < σ j

theorem KeepsOrder.filter_finRange {σ : Equiv.Perm (Fin n)} {p : Fin n → Bool}
    (h : KeepsOrder σ p) : ((List.finRange n).map σ).filter p = (List.finRange n).filter p := by
  have hsorted : (List.finRange n).Pairwise (· < ·) := (List.sortedLT_finRange n).pairwise
  have hmoved : (((List.finRange n).map σ).filter p).Pairwise (· < ·) := by
    rw [List.pairwise_filter, List.pairwise_map]
    exact hsorted.imp fun {i j} hij => h i j hij
  exact (σ.map_finRange_perm.filter p).eq_of_pairwise' hmoved (hsorted.filter p)

end Rearrangement

namespace Corpus

def rearrange (corpus : Corpus) (σ : Equiv.Perm (Fin corpus.length)) : Corpus :=
  List.ofFn fun i => corpus.get (σ i)

theorem filter_rearrange {corpus : Corpus} {σ : Equiv.Perm (Fin corpus.length)}
    {p : Source → Bool} (h : KeepsOrder σ fun i => p (corpus.get i)) :
    (corpus.rearrange σ).filter p = corpus.filter p := by
  have hfilter : ∀ positions : List (Fin corpus.length),
      (positions.map corpus.get).filter p =
        (positions.filter fun i => p (corpus.get i)).map corpus.get := fun _ => List.filter_map
  calc
    (corpus.rearrange σ).filter p
      = (((List.finRange _).map σ).map corpus.get).filter p := by
        rw [rearrange, List.ofFn_eq_map, List.map_map]
        rfl
    _ = ((List.finRange _).map corpus.get).filter p := by
        rw [hfilter, hfilter, h.filter_finRange]
    _ = corpus.filter p := by
        rw [← List.ofFn_eq_map, List.ofFn_get]

theorem definitions_eq_of_filter_eq {corpus corpus' : Corpus}
    (h : corpus'.filter Source.hasDefinition = corpus.filter Source.hasDefinition) :
    corpus'.definitions = corpus.definitions := by
  have hsilent : ∀ source : Source, source.hasDefinition = false →
      (Block.bodies source.text).filterMap Definition.ofBody? = [] := by
    intro source hs
    rw [List.filterMap_eq_nil_iff]
    simpa [Source.hasDefinition] using hs
  simp only [definitions, bodies, Definitions.ofBodies, List.filterMap_flatMap]
  rw [flatMap_eq_of_filter_eq hsilent h]

variable {table : Definitions} {policy : Policy}

theorem surveyBlocks_filter (blocks : List Block.Located) (found : List Warning)
    (editions : Editions) :
    surveyBlocks table policy (blocks.filter fun block => isRouteBody block.body) found editions =
      surveyBlocks table policy blocks found editions := by
  induction blocks generalizing found editions with
  | nil => rfl
  | cons block blocks ih =>
    cases hb : isRouteBody block.body with
    | true => simp only [List.filter_cons, hb, ↓reduceIte, surveyBlocks, ih]
    | false =>
      simp [hb, surveyBlocks, readBlock_of_not_isRouteBody hb, ih]

theorem surveyBlocks_eq_of_filter_eq {corpus corpus' : Corpus}
    (h : corpus'.filter Source.hasRoute = corpus.filter Source.hasRoute)
    (found : List Warning) (editions : Editions) :
    surveyBlocks table policy corpus'.blocks found editions =
      surveyBlocks table policy corpus.blocks found editions := by
  have hsilent : ∀ source : Source, source.hasRoute = false →
      (blocksOf source).filter (fun block => isRouteBody block.body) = [] := by
    intro source hs
    rw [List.filter_eq_nil_iff]
    intro block hb
    obtain ⟨⟨body, i⟩, hmem, rfl⟩ := List.mem_map.1 hb
    have hbody : body ∈ Block.bodies source.text := List.fst_mem_of_mem_zipIdx hmem
    have hnone : ∀ body ∈ Block.bodies source.text, isRouteBody body = false := by
      simpa [Source.hasRoute] using hs
    simp [hnone body hbody]
  rw [← surveyBlocks_filter corpus'.blocks, ← surveyBlocks_filter corpus.blocks]
  simp only [blocks, List.filter_flatMap]
  rw [flatMap_eq_of_filter_eq hsilent h]

/-- Sources may change places as long as those with a definition stay in order, and those with a
resource too: the table, in which the last definition of a name counts, and the survey stay the
same. -/
theorem survey_rearrange (corpus : Corpus) (σ : Equiv.Perm (Fin corpus.length))
    (hd : KeepsOrder σ fun i => (corpus.get i).hasDefinition)
    (hr : KeepsOrder σ fun i => (corpus.get i).hasRoute) :
    (corpus.rearrange σ).definitions = corpus.definitions ∧
      (∀ name, corpus.definitions.get? name =
        ((corpus.bodies.filterMap Definition.ofBody?).filter fun d => d.name = name).getLast?) ∧
      ∀ policy, (corpus.rearrange σ).survey policy = corpus.survey policy := by
  have hdefinitions := definitions_eq_of_filter_eq (filter_rearrange hd)
  refine ⟨hdefinitions, Definitions.get?_ofBodies corpus.bodies, fun policy => ?_⟩
  rw [survey, survey, hdefinitions]
  exact surveyBlocks_eq_of_filter_eq (filter_rearrange hr) [] .empty

/-- A definition that moves behind its use; the last source redefines it and has a resource too. -/
theorem survey_rearrange_of_definition_behind_use :
    let corpus : Corpus :=
      [⟨"roles.py".toList, "\"\"\"@apiDefine auth\n@apiPermission user\"\"\"".toList⟩,
        ⟨"app.py".toList, "'''@api \x7bget\x7d /a A\n@apiUse auth'''".toList⟩,
        ⟨"notes.txt".toList, "'''nothing here'''".toList⟩,
        ⟨"admin.py".toList, ("'''@apiDefine auth\n@apiPermission admin'''" ++
          "'''@api \x7bput\x7d /b B\n@apiUse auth'''").toList⟩]
    let σ : Equiv.Perm (Fin corpus.length) := Equiv.swap ⟨0, by decide⟩ ⟨2, by decide⟩
    KeepsOrder σ (fun i => (corpus.get i).hasDefinition) ∧
      KeepsOrder σ (fun i => (corpus.get i).hasRoute) ∧
      (corpus.rearrange σ).map Source.id =
        ["notes.txt", "app.py", "roles.py", "admin.py"].map String.toList ∧
      (corpus.rearrange σ).definitions = corpus.definitions ∧
      ((corpus.definitions.get? "auth".toList).map Definition.lines =
        some ["@apiPermission admin".toList]) ∧
      (corpus.rearrange σ).survey .strict = corpus.survey .strict := by
  intro corpus σ
  have hd : KeepsOrder σ fun i => (corpus.get i).hasDefinition := by
    unfold KeepsOrder
    decide +kernel
  have hr : KeepsOrder σ fun i => (corpus.get i).hasRoute := by
    unfold KeepsOrder
    decide +kernel
  obtain ⟨hdefinitions, -, hsurvey⟩ := survey_rearrange corpus σ hd hr
  exact ⟨hd, hr, by decide +kernel, hdefinitions, by decide +kernel, hsurvey .strict⟩

end Corpus

end ApiNotes
