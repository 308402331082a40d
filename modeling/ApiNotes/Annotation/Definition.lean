import ApiNotes.Annotation.Fields
import ApiNotes.Annotation.TagLine
import ApiNotes.Keyed
import ApiNotes.Text.Lines

/-! # Definitions

A definition gives a name to tag lines, which a reference to the name stands for. A table holds
one definition for each name, the last one that was put.
-/

namespace ApiNotes

structure Definition where
  name : Text
  /-- The text after the name, on one line. -/
  title : Option Text
  /-- The tag lines that a reference to the name stands for. -/
  lines : List Text
  deriving DecidableEq, Repr

/-- A definition is a block that starts with `@apiDefine` and a name. -/
def Definition.ofBody? (body : Text) : Option Definition :=
  match TagLine.ofBody body with
  | [] => none
  | head :: lines =>
    if TagLine.keyword head = "@apiDefine".toList then
      let fields := Fields.ofText .word (TagLine.content head)
      fields.name.map fun name =>
        { name := name.value, title := (Text.singleLine fields.description).nonEmpty?, lines }
    else none

structure Definitions where
  entries : List Definition
  distinct : (entries.map Definition.name).Nodup

namespace Definitions

def empty : Definitions := ⟨[], List.nodup_nil⟩

instance : Inhabited Definitions := ⟨empty⟩

def get? (table : Definitions) (name : Text) : Option Definition :=
  Keyed.get? Definition.name name table.entries

def insert (table : Definitions) (definition : Definition) : Definitions :=
  ⟨Keyed.put Definition.name definition table.entries, Keyed.nodup_put _ table.distinct⟩

def size (table : Definitions) : Nat := table.entries.length

/-- The number of definitions whose names are not active. -/
def fresh (table : Definitions) (active : List Text) : Nat :=
  table.entries.countP fun definition => !active.contains definition.name

/-- More lines than any definition has. -/
def width (table : Definitions) : Nat := (table.entries.flatMap Definition.lines).length + 1

section Measures

variable {table : Definitions} {active : List Text} {definition : Definition}

theorem fresh_cons_lt (hd : definition ∈ table.entries) (ha : definition.name ∉ active) :
    table.fresh (definition.name :: active) < table.fresh active := by
  obtain ⟨before, after, he⟩ := List.append_of_mem hd
  have hmono : ∀ ds : List Definition,
      ds.countP (fun d => !(definition.name :: active).contains d.name) ≤
        ds.countP (fun d => !active.contains d.name) :=
    fun ds => List.countP_mono_left fun d _ h => by
      simp only [List.contains_cons, Bool.not_or, Bool.and_eq_true] at h
      exact h.2
  have hb := hmono before
  have hf := hmono after
  simp only [fresh, he, List.countP_append]
  rw [List.countP_cons_of_neg (by simp), List.countP_cons_of_pos (by simpa using ha)]
  omega

theorem lines_length_lt_width (hd : definition ∈ table.entries) :
    definition.lines.length < table.width :=
  Nat.lt_succ_of_le (List.sublist_flatten_of_mem (List.mem_map.2 ⟨_, hd, rfl⟩)).length_le

end Measures

/-- The table after the definitions among some block bodies are put in order. -/
def ofBodies (bodies : List Text) : Definitions :=
  (bodies.filterMap Definition.ofBody?).foldl insert empty

def sorted (table : Definitions) : List Definition :=
  table.entries.mergeSort fun a b => Text.le a.name b.name

end Definitions

end ApiNotes
