import ApiNotes.Resource.Entry

/-! # Drafts

A draft collects the entries of a block. Each entry touches one part of it: the last route,
version, group and deprecation count, and all roles, descriptions, parameters and responses.
-/

namespace ApiNotes

structure Draft where
  /-- Method, path and title. One tag line gives all three or none, so none is missing alone. -/
  route : Option Route := none
  version : Option Text := none
  group : Option Text := none
  /-- The last deprecation: whether there is one, and its text. -/
  deprecation : Option (Option Text) := none
  roles : List Text := []
  description : Option Text := none
  params : List Param := []
  successes : List BodyField := []
  errors : List Response := []
  deriving DecidableEq, Repr

namespace Draft

/-- Add paragraphs to a description on lines of their own. -/
def describe (description : Option Text) (paragraphs : Text) : Option Text :=
  if paragraphs.isEmpty then description
  else
    match description with
    | some earlier => some (earlier ++ '\n' :: paragraphs)
    | none => some paragraphs

def add (draft : Draft) : Entry → Draft
  | .route route => { draft with route := some route }
  | .version version => { draft with version }
  | .group group => { draft with group }
  | .deprecated description => { draft with deprecation := some description }
  | .roles roles => { draft with roles := draft.roles ++ roles }
  | .description paragraphs => { draft with description := describe draft.description paragraphs }
  | .param param => { draft with params := draft.params ++ [param] }
  | .success field => { draft with successes := draft.successes ++ [field] }
  | .error response => { draft with errors := draft.errors ++ [response] }
  | .reference _ => draft
  | .other => draft

def success (draft : Draft) : Response :=
  { status := 200, description := "ok".toList, body := draft.successes }

/-- The finished resource. What a draft without a route is said to lack is its method, which is
looked for before its path. -/
def finish (draft : Draft) : Except Fault Resource :=
  match draft.route with
  | none => .error (.missing Tag.route.keyword .method)
  | some route =>
    .ok
      { path := route.path
        method := route.method
        version := draft.version
        tags := draft.group.toList
        displayName := route.title
        description := draft.description
        deprecated := draft.deprecation.isSome
        deprecatedDescription := draft.deprecation.join
        roles := draft.roles
        params := draft.params
        responses := draft.success :: draft.errors }

end Draft

end ApiNotes
