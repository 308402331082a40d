import ApiNotes.Resource.Collection
import ApiNotes.Resource.Mapping
import ApiNotes.Uri.Basic

/-! # Documents

A document describes the resources of one version of an interface.
-/

namespace ApiNotes

structure Document where
  title : Text
  /-- Where the interface is mounted: a URI, or a path. -/
  baseUri : Option Text
  version : Option Text
  resources : Resources

namespace Document

/-- The path that the interface is mounted under, empty if there is none. -/
def basePath (d : Document) : Text := (d.baseUri.map Uri.basePath).getD []

def find? (d : Document) (path method : Text) : Option Resource :=
  d.resources.findUnder? d.basePath path method

def toJson (d : Document) : Json :=
  .obj
    [("title".toList, .str d.title),
      ("base_uri".toList, .ofOption d.baseUri),
      ("version".toList, .ofOption d.version),
      ("resources".toList, .arr (d.resources.entries.map Resource.toJson))]

end Document

end ApiNotes
