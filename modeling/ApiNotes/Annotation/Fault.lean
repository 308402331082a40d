import ApiNotes.Text.Basic

/-! # Faults and warnings

A fault stops a block from becoming a resource. A warning records a reference that was passed
over instead. Each has one wording.
-/

namespace ApiNotes

inductive Piece where
  | method
  | path
  | name
  | definitionName
  deriving DecidableEq, Repr

def Piece.label : Piece → Text
  | .method => "method".toList
  | .path => "path".toList
  | .name => "name".toList
  | .definitionName => "definition name".toList

inductive Fault where
  /-- A tag line lacks a part that its tag requires. -/
  | missing (keyword : Text) (piece : Piece)
  /-- A reference to a name that no definition has. -/
  | undefinedReference (name : Text)
  /-- A reference to a definition that is being expanded already. -/
  | recursiveReference (name : Text)
  /-- A fault in a block of a source, where blocks count from one. -/
  | located (source : Text) (block : Nat) (fault : Fault)
  deriving DecidableEq, Repr

namespace Fault

def message : Fault → Text
  | .missing keyword piece => keyword ++ ": missing required ".toList ++ piece.label
  | .undefinedReference name => "@apiUse: no such @apiDefine `".toList ++ name ++ ['`']
  | .recursiveReference name => "@apiUse: `".toList ++ name ++ "` expands into itself".toList
  | .located source block fault =>
    source ++ ": block ".toList ++ Text.ofNat block ++ ": ".toList ++ fault.message

def cause : Fault → Fault
  | .located _ _ fault => fault.cause
  | fault => fault

end Fault

/-- Why a reference was passed over. -/
inductive Notice where
  | undefinedReference (name : Text)
  | recursiveReference (name : Text)
  | missingName
  deriving DecidableEq, Repr

namespace Notice

def message : Notice → Text
  | .undefinedReference name =>
    "@apiUse `".toList ++ name ++ "` is not defined, expanded as empty".toList
  | .recursiveReference name =>
    "@apiUse `".toList ++ name ++ "` expands into itself, expanded as empty".toList
  | .missingName => "@apiUse without a definition name, ignored".toList

/-- The fault that the same reference is when references have to resolve. -/
def toFault : Notice → Fault
  | .undefinedReference name => .undefinedReference name
  | .recursiveReference name => .recursiveReference name
  | .missingName => .missing "@apiUse".toList .definitionName

end Notice

/-- A notice with its place: a source and a block of it, counted from one. -/
structure Warning where
  source : Text
  block : Nat
  notice : Notice
  deriving DecidableEq, Repr

def Warning.message (w : Warning) : Text :=
  w.source ++ ": block ".toList ++ Text.ofNat w.block ++ ": ".toList ++ w.notice.message

end ApiNotes
