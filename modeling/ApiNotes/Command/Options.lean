import ApiNotes.Text.Basic

/-! # Command line options

Options and patterns may come in any order. An option takes its value from the same argument or
from the next one, each option and flag may be given once, and two hyphens end the options.
-/

namespace ApiNotes

inductive Setting where
  | output
  | format
  | title
  | baseUri
  | apiVersion
  deriving DecidableEq, Repr

inductive Flag where
  | lenient
  | verbose
  deriving DecidableEq, Repr

structure CommandLine where
  settings : List (Setting × Text) := []
  flags : List Flag := []
  patterns : List Text := []
  deriving DecidableEq, Repr

namespace CommandLine

def setting? (name : Text) : Option Setting :=
  [("output".toList, .output), ("format".toList, .format), ("title".toList, .title),
    ("base-uri".toList, .baseUri), ("api-version".toList, .apiVersion)].lookup name

def flag? (name : Text) : Option Flag :=
  [("lenient".toList, .lenient), ("verbose".toList, .verbose)].lookup name

def shortSetting? (c : Char) : Option Setting := [('o', .output), ('f', .format)].lookup c

def shortFlag? (c : Char) : Option Flag := [('v', .verbose)].lookup c

def value? (line : CommandLine) (setting : Setting) : Option Text := line.settings.lookup setting

/-- Give a setting its value; the output directory may not be empty. -/
def set (line : CommandLine) (setting : Setting) (value : Text) : Option CommandLine :=
  if (line.value? setting).isSome ∨ (setting = .output ∧ value = []) then none
  else some { line with settings := line.settings ++ [(setting, value)] }

def raise (line : CommandLine) (flag : Flag) : Option CommandLine :=
  if line.flags.contains flag then none else some { line with flags := line.flags ++ [flag] }

def addPattern (line : CommandLine) (pattern : Text) : CommandLine :=
  { line with patterns := line.patterns ++ [pattern] }

/-- An argument that is a value when it stands by itself: a lone hyphen, or no hyphen first. -/
def isValue (arg : Text) : Bool := arg.head? != some '-' || arg == ['-']

/-- The short options after a hyphen: flags, and at the end a setting, whose value follows right
away, after an equals sign, or in the next argument. The setting is given if its value is still to
come. -/
def readShort (line : CommandLine) : Text → Option (CommandLine × Option Setting)
  | [] => some (line, none)
  | c :: s =>
    match shortSetting? c with
    | some setting =>
      match s with
      | [] => some (line, some setting)
      | '=' :: value => (line.set setting value).map fun line => (line, none)
      | value => (line.set setting value).map fun line => (line, none)
    | none => (shortFlag? c).bind fun flag => (line.raise flag).bind fun line => readShort line s

def readLong (line : CommandLine) (arg : Text) : Option (CommandLine × Option Setting) :=
  match Text.splitOnce? '=' arg with
  | some (name, value) =>
    (setting? name).bind fun setting => (line.set setting value).map fun line => (line, none)
  | none =>
    match setting? arg with
    | some setting => some (line, some setting)
    | none => (flag? arg).bind fun flag => (line.raise flag).map fun line => (line, none)

/-- Read the arguments; `pending` is a setting that waits for its value. -/
def read (line : CommandLine) (pending : Option Setting) : List Text → Option CommandLine
  | [] => if pending.isSome then none else some line
  | arg :: args =>
    match pending with
    | some setting =>
      if isValue arg then (line.set setting arg).bind fun line => read line none args else none
    | none =>
      if isValue arg then read (line.addPattern arg) none args
      else if arg = ['-', '-'] then some { line with patterns := line.patterns ++ args }
      else
        let step :=
          match Text.after? ['-', '-'] arg with
          | some long => line.readLong long
          | none => line.readShort arg.tail
        step.bind fun (line, pending) => read line pending args

def ofArgs? (args : List Text) : Option CommandLine := read {} none args

def format (line : CommandLine) : Text := (line.value? .format).getD "markdown".toList

def title (line : CommandLine) : Text := (line.value? .title).getD "API Documentation".toList

end CommandLine

end ApiNotes
