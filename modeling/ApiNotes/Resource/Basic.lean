import ApiNotes.Text.Basic

/-! # Resources

A resource is one documented operation of an interface: a path and a method, with its parameters
and its responses.
-/

namespace ApiNotes

inductive ParamKind where
  | form
  | query
  | header
  | url
  deriving DecidableEq, Repr

namespace ParamKind

def label : ParamKind → Text
  | .form => "form".toList
  | .query => "query".toList
  | .header => "header".toList
  | .url => "url".toList

/-- All kinds, in the order in which a document lists them. -/
def all : List ParamKind := [.url, .header, .query, .form]

def ofLabel? (s : Text) : Option ParamKind := all.find? fun kind => kind.label = s

end ParamKind

structure Param where
  kind : ParamKind
  name : Text
  group : Option Text
  type : Option Text
  default : Option Text
  description : Text
  required : Bool
  deriving DecidableEq, Repr

structure BodyField where
  name : Text
  type : Option Text
  group : Option Text
  description : Option Text
  deriving DecidableEq, Repr

structure Response where
  status : Nat
  description : Text
  body : List BodyField
  deriving DecidableEq, Repr

structure Resource where
  path : Text
  method : Text
  version : Option Text
  tags : List Text
  displayName : Text
  description : Option Text
  deprecated : Bool
  deprecatedDescription : Option Text
  roles : List Text
  params : List Param
  responses : List Response
  deriving DecidableEq, Repr

namespace Resource

def keyOf (path method : Text) : Text := path ++ '-' :: method

/-- Resources of one version are told apart by their key. -/
def key (r : Resource) : Text := keyOf r.path r.method

def paramsOf (r : Resource) (kind : ParamKind) : List Param :=
  r.params.filter fun p => p.kind = kind

end Resource

end ApiNotes
