import ApiNotes.Annotation.Fault
import ApiNotes.Annotation.Fields
import ApiNotes.Annotation.TagLine
import ApiNotes.Resource.Basic
import ApiNotes.Text.Case
import ApiNotes.Text.Lines

/-! # Entries

An entry is what one tag line says about a resource. Reading a tag line looks at that line alone.
-/

namespace ApiNotes

inductive Tag where
  | route
  | version
  | group
  | deprecated
  | permission
  | description
  | param (kind : ParamKind)
  | success
  | error
  | use
  deriving DecidableEq, Repr

namespace Tag

def keyword : Tag → Text
  | .route => "@api".toList
  | .version => "@apiVersion".toList
  | .group => "@apiGroup".toList
  | .deprecated => "@apiDeprecated".toList
  | .permission => "@apiPermission".toList
  | .description => "@apiDescription".toList
  | .param .form => "@apiParam".toList
  | .param .query => "@apiQueryParam".toList
  | .param .url => "@apiUrlParam".toList
  | .param .header => "@apiHeadParam".toList
  | .success => "@apiSuccess".toList
  | .error => "@apiError".toList
  | .use => "@apiUse".toList

def all : List Tag :=
  [.route, .version, .group, .deprecated, .permission, .description, .success, .error, .use] ++
    ParamKind.all.map .param

def ofKeyword? (keyword : Text) : Option Tag := all.find? fun tag => tag.keyword = keyword

end Tag

structure Route where
  method : Text
  path : Text
  title : Text
  deriving DecidableEq, Repr

inductive Entry where
  | route (route : Route)
  | version (version : Option Text)
  | group (group : Option Text)
  | deprecated (description : Option Text)
  | roles (roles : List Text)
  | description (paragraphs : Text)
  | param (param : Param)
  | success (field : BodyField)
  | error (response : Response)
  /-- A reference to a definition, which may lack its name. -/
  | reference (name : Option Text)
  /-- A line whose tag says nothing about a resource. -/
  | other
  deriving DecidableEq, Repr

namespace Entry

/-- The value of a token, where an empty value counts as absent. -/
def filled? (token : Option Token) : Option Text := token.bind fun t => t.value.nonEmpty?

def require (tag : Tag) (piece : Piece) (value : Option Text) : Except Fault Text :=
  match value with
  | some value => .ok value
  | none => .error (.missing tag.keyword piece)

/-- The text of `@api`: a method in braces, a path and a title. -/
def readRoute (content : Text) : Except Fault Route := do
  let fields := Fields.ofText .path content
  let method ← require .route .method (filled? fields.type)
  let path ← require .route .path (fields.name.map Token.value)
  return { method := method.lower, path, title := Text.singleLine fields.description }

def readRoles (content : Text) : List Text :=
  ((Text.split ',' content).map Text.trim).filter fun role => !role.isEmpty

/-- The text inside brackets that enclose a whole name, which mark it as optional. -/
def insideBrackets? : Text → Option Text
  | '[' :: s => if s.getLast? = some ']' then some s.dropLast else none
  | _ => none

/-- A parameter name and its default value, which follows an equals sign. -/
def nameAndDefault (s : Text) : Text × Option Text :=
  match Text.splitOnce? '=' s with
  | some (name, default) => (name.trim, default.trim.nonEmpty?)
  | none => (s, none)

/-- The text of a parameter tag: a group, a type and a name, in brackets if it is optional. -/
def readParam (kind : ParamKind) (content : Text) : Except Fault Param := do
  let fields := Fields.ofText .word content
  let token ← require (.param kind) .name (fields.name.map Token.value)
  let inner := insideBrackets? token
  let (name, default) := nameAndDefault ((inner.map Text.trim).getD token)
  let name ← require (.param kind) .name name.nonEmpty?
  return {
    kind, name, default
    group := fields.group.map Token.value
    type := filled? fields.type
    description := Text.singleLine fields.description
    required := inner.isNone }

def readSuccess (content : Text) : Except Fault BodyField := do
  let fields := Fields.ofText .word content
  let name ← require .success .name (fields.name.map Token.value)
  return {
    name
    type := filled? fields.type
    group := fields.group.map Token.value
    description := some (Text.singleLine fields.description) }

/-- The status of an error whose group is no status. -/
def defaultStatus : Nat := 400

/-- A status is a decimal number below 2 ^ 16, after an optional plus sign. -/
def status? (s : Text) : Option Nat :=
  let digits := (Text.after? ['+'] s).getD s
  let value := digits.foldl (fun n c => 10 * n + (c.toNat - '0'.toNat)) 0
  if !digits.isEmpty && digits.all Char.isDigit && value < UInt16.size then some value else none

def readError (content : Text) : Except Fault Response := do
  let fields := Fields.ofText .word content
  let name ← require .error .name (fields.name.map Token.value)
  return {
    status := (fields.group.bind fun group => status? group.value).getD defaultStatus
    description := Text.singleLine fields.description
    body := [{ name, type := filled? fields.type, group := none, description := none }] }

def ofTag (tag : Tag) (content : Text) : Except Fault Entry :=
  match tag with
  | .route => .route <$> readRoute content
  | .version => .ok (.version content.trim.nonEmpty?)
  | .group => .ok (.group content.trim.nonEmpty?)
  | .deprecated => .ok (.deprecated (Text.singleLine content).nonEmpty?)
  | .permission => .ok (.roles (readRoles content))
  | .description => .ok (.description (Text.paragraphs content))
  | .param kind => .param <$> readParam kind content
  | .success => .success <$> readSuccess content
  | .error => .error <$> readError content
  | .use => .ok (.reference ((Fields.ofText .word content).name.map Token.value))

def ofLine (line : Text) : Except Fault Entry :=
  match Tag.ofKeyword? (TagLine.keyword line) with
  | some tag => ofTag tag (TagLine.content line)
  | none => .ok .other

end Entry

end ApiNotes
