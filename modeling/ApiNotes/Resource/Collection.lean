import ApiNotes.Keyed
import ApiNotes.Resource.Basic
import ApiNotes.Text.Case

/-! # Collections of resources

The resources of one version, one for each key, in the order in which the keys were first seen,
with an index of their keys; and the collections of all versions, in the order in which the
versions were first seen.
-/

namespace ApiNotes

structure Resources where
  entries : List Resource
  /-- The slot of a key: where the entry with this key stands. -/
  index : Text → Option Nat
  indexed : Keyed.Indexes Resource.key index entries

namespace Resources

def empty : Resources := ⟨[], fun _ => none, .nil⟩

instance : Inhabited Resources := ⟨empty⟩

def size (rs : Resources) : Nat := rs.entries.length

def isEmpty (rs : Resources) : Bool := rs.entries.isEmpty

def entryAt (rs : Resources) {key : Text} {slot : Nat} (h : rs.index key = some slot) : Resource :=
  rs.entries.get ⟨slot, rs.indexed.lt_length h⟩

def get? (rs : Resources) (key : Text) : Option Resource :=
  match h : rs.index key with
  | some _ => some (rs.entryAt h)
  | none => none

/-- Replace the resource with the same key where it stands, or append; with the one replaced. -/
def exchange (rs : Resources) (r : Resource) : Option Resource × Resources :=
  match h : rs.index r.key with
  | some slot =>
    (some (rs.entryAt h), ⟨rs.entries.set slot r, rs.index, rs.indexed.set h⟩)
  | none =>
    (none,
      ⟨rs.entries ++ [r], fun key => if key = r.key then some rs.entries.length else rs.index key,
        rs.indexed.append h⟩)

def insert (rs : Resources) (r : Resource) : Resources := (rs.exchange r).2

def ofList (rs : List Resource) : Resources := rs.foldl insert empty

/-- Look a path and a method up, whatever the case of the method. -/
def find? (rs : Resources) (path method : Text) : Option Resource :=
  rs.get? (Resource.keyOf path method.lower)

/-- The path below a base path; the base path itself is the root below it. -/
def below? (base path : Text) : Option Text :=
  let base := Text.dropEndWhile (· == '/') base
  if base.isEmpty then none
  else
    match Text.after? base path with
    | some [] => some ['/']
    | some ('/' :: rest) => some ('/' :: rest)
    | _ => none

/-- Look a path up as it is, and if that fails once more below the base path. -/
def findUnder? (rs : Resources) (base path method : Text) : Option Resource :=
  (rs.find? path method).or ((below? base path).bind fun p => rs.find? p method)

end Resources

/-- The collection of one version, where resources without a version are one too. -/
structure Edition where
  version : Option Text
  resources : Resources

structure Editions where
  entries : List Edition
  distinct : (entries.map Edition.version).Nodup

namespace Editions

def empty : Editions := ⟨[], List.nodup_nil⟩

instance : Inhabited Editions := ⟨empty⟩

def size (es : Editions) : Nat := es.entries.length

def versions (es : Editions) : List (Option Text) := es.entries.map Edition.version

def get? (es : Editions) (version : Option Text) : Option Resources :=
  (Keyed.get? Edition.version version es.entries).map Edition.resources

def exchange (es : Editions) (r : Resource) : Option Resource × Editions :=
  let (old, resources) := ((es.get? r.version).getD .empty).exchange r
  (old,
    ⟨Keyed.put Edition.version ⟨r.version, resources⟩ es.entries, Keyed.nodup_put _ es.distinct⟩)

def insert (es : Editions) (r : Resource) : Editions := (es.exchange r).2

/-- Take the collection of a version out; with what is left. -/
def remove (es : Editions) (version : Option Text) : Option Resources × Editions :=
  (es.get? version,
    ⟨Keyed.remove Edition.version version es.entries,
      es.distinct.sublist (List.filter_sublist.map _)⟩)

def ofList (rs : List Resource) : Editions := rs.foldl insert empty

end Editions

end ApiNotes
