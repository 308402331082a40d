import ApiNotes.Document.Basic
import ApiNotes.Text.Alphanumeric

/-! # Documents as Markdown

A title, an index with a link to every resource, and one section for each resource: its badges, its
description, a table of parameters for each kind and the responses.
-/

namespace ApiNotes.Markdown

/-- The anchor of a heading: lower case, only letters, numbers, spaces and hyphens, and the spaces
as hyphens. -/
def slug (heading : Text) : Text :=
  Text.replace ' ' ['-'] (heading.lower.filter fun c => isAlphanumeric c || c == ' ' || c == '-')

def codeSpan (s : Text) : Text := '`' :: s ++ ['`']

def heading (r : Resource) : Text := r.method.upper ++ ' ' :: r.path

def link (label target : Text) : Text :=
  "* [".toList ++ label ++ "](#".toList ++ slug target ++ [')']

/-- The index names a resource by its title, or by its heading if it has none. -/
def indexItem (r : Resource) : Text :=
  link (if r.displayName.isEmpty then heading r else r.displayName) (heading r)

def sectionTitle : ParamKind → Text
  | .url => "URL parameters".toList
  | .header => "Headers".toList
  | .query => "Query parameters".toList
  | .form => "Form parameters".toList

/-- Text in a table cell, where a bar would end the cell. -/
def cellText (s : Text) : Text := Text.replace '|' ['\\', '|'] s

def tableRow (cells : List Text) : Text :=
  "| ".toList ++ Text.join " | ".toList cells ++ " |".toList

def paramRow (p : Param) : Text :=
  tableRow
    [codeSpan p.name,
      (p.type.map codeSpan).getD [],
      if p.required then "yes".toList else "no".toList,
      (p.default.map codeSpan).getD [],
      cellText p.description]

def tableHead : List Text :=
  ["| Name | Type | Required | Default | Description |".toList,
    "|------|------|----------|---------|-------------|".toList]

def paramSection (r : Resource) (kind : ParamKind) : List Text :=
  match r.paramsOf kind with
  | [] => []
  | params =>
    ("#### ".toList ++ sectionTitle kind ++ ['\n']) :: tableHead ++ params.map paramRow ++ [[]]

def bodyItem (f : BodyField) : Text :=
  "\n  * ".toList ++ codeSpan f.name ++ (f.type.map fun t => " (".toList ++ t ++ [')']).getD [] ++
    ((f.description.bind Text.nonEmpty?).map fun d => ": ".toList ++ d).getD []

def responseItem (r : Response) : Text :=
  "* **".toList ++ Text.ofNat r.status ++ "**".toList ++
    (if r.description.isEmpty then [] else ": ".toList ++ r.description) ++ r.body.flatMap bodyItem

def responseSection (r : Resource) : List Text :=
  match r.responses with
  | [] => []
  | responses => "#### Responses\n".toList :: responses.map responseItem ++ [[]]

def deprecation (r : Resource) : List Text :=
  if r.deprecated then
    match r.deprecatedDescription with
    | some s => ["> **Deprecated:** ".toList ++ s ++ ['\n']]
    | none => ["> **Deprecated**\n".toList]
  else []

def badges (r : Resource) : List Text :=
  match r.tags.map codeSpan ++ r.roles.map (fun role => '*' :: codeSpan role ++ ['*']) with
  | [] => []
  | items => ["> ".toList ++ Text.join [' '] items, []]

def description (r : Resource) : List Text :=
  match r.description with
  | some s => [Text.replace '\n' ['\n', '\n'] s, []]
  | none => []

def resourceLines (r : Resource) : List Text :=
  ("### ".toList ++ heading r ++ ['\n']) ::
    (if r.displayName.isEmpty then [] else ["**".toList ++ r.displayName ++ "**\n".toList]) ++
    deprecation r ++ badges r ++ description r ++ ParamKind.all.flatMap (paramSection r) ++
    responseSection r

def resourceSection (r : Resource) : Text := Text.join ['\n'] (resourceLines r)

def metadata (d : Document) : Text :=
  let items :=
    (d.version.toList.map fun v => "Version: ".toList ++ codeSpan v) ++
      d.baseUri.toList.map fun u => "Base URI: ".toList ++ codeSpan u
  if items.isEmpty then [] else Text.join "  \n".toList items ++ "\n\n".toList

def index (rs : List Resource) : Text :=
  if rs.isEmpty then []
  else "## Index\n\n".toList ++ rs.flatMap (fun r => indexItem r ++ ['\n']) ++ ['\n']

def render (d : Document) : Text :=
  "# ".toList ++ d.title ++ "\n\n".toList ++ metadata d ++ index d.resources.entries ++
    d.resources.entries.flatMap fun r => resourceSection r ++ ['\n']

end ApiNotes.Markdown
