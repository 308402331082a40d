import ApiNotes.Json.Basic
import ApiNotes.Resource.Basic

/-! # Resources as JSON

The fields of every object stand in a fixed order, and absent text is null. Only a body field
leaves its group and description out when they are absent.
-/

namespace ApiNotes

def Param.toJson (p : Param) : Json :=
  .obj
    [("name".toList, .str p.name),
      ("type".toList, .ofOption p.type),
      ("default".toList, .ofOption p.default),
      ("description".toList, .str p.description),
      ("required".toList, .bool p.required),
      ("kind".toList, .str p.kind.label),
      ("group".toList, .ofOption p.group)]

def optionalField (name : Text) (s : Option Text) : List (Text × Json) :=
  s.toList.map fun s => (name, .str s)

def BodyField.toJson (f : BodyField) : Json :=
  .obj <|
    [("name".toList, .str f.name), ("type".toList, .ofOption f.type)] ++
      optionalField "group".toList f.group ++ optionalField "description".toList f.description

def Response.toJson (r : Response) : Json :=
  .obj
    [("status".toList, .num r.status),
      ("description".toList, .str r.description),
      ("body".toList, .arr (r.body.map BodyField.toJson))]

def Resource.toJson (r : Resource) : Json :=
  .obj
    [("path".toList, .str r.path),
      ("method".toList, .str r.method),
      ("tags".toList, .strings r.tags),
      ("display_name".toList, .str r.displayName),
      ("description".toList, .ofOption r.description),
      ("security".toList, .obj [("roles".toList, .strings r.roles)]),
      ("params".toList, .arr (r.params.map Param.toJson)),
      ("responses".toList, .arr (r.responses.map Response.toJson)),
      ("version".toList, .ofOption r.version),
      ("deprecated".toList, .bool r.deprecated),
      ("deprecated_description".toList, .ofOption r.deprecatedDescription)]

end ApiNotes
