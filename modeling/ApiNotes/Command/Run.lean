import ApiNotes.Command.Options
import ApiNotes.Document.Format
import ApiNotes.Files.Selection
import ApiNotes.Text.Quoted

/-! # Running a command

A run reads sources, surveys them and writes one document for each version, to the standard output
or into a directory. Nothing is written before everything else has succeeded.
-/

namespace ApiNotes

inductive Failure where
  /-- The standard input is not text. -/
  | badInput
  | badSelection (error : SelectionError)
  | badBlock (fault : Fault)
  | unknownFormat (name : Text)
  | noVersion (version : Text)
  | noDirectory (path : Text) (error : FileError)
  /-- Two versions would be written to one file. -/
  | sameFile (first second : Text) (file : Text)
  | notWritten (path : Text) (error : FileError)

namespace Failure

def message : Failure → Text
  | .badInput => "failed to read stdin".toList
  | .badSelection error => error.message
  | .badBlock fault => fault.message
  | .unknownFormat name => Format.unknownMessage name
  | .noVersion version => "no resources documented for version ".toList ++ version
  | .noDirectory path _ => "failed to create output directory: ".toList ++ path
  | .sameFile first second file =>
    "versions ".toList ++ first.quoted ++ " and ".toList ++ second.quoted ++
      " would both be written to ".toList ++ file
  | .notWritten path _ => "failed to write ".toList ++ path

/-- What a failure comes from, if it comes from something else. -/
def cause? : Failure → Option Text
  | .badInput => some notTextMessage
  | .badSelection error => some error.cause
  | .badBlock (.located _ _ fault) => some fault.message
  | .badBlock _ => none
  | .unknownFormat _ => none
  | .noVersion _ => none
  | .noDirectory _ error => some error.message
  | .sameFile .. => none
  | .notWritten _ error => some error.message

def report (failure : Failure) : Text :=
  "Error: ".toList ++ failure.message ++ ['\n'] ++
    match failure.cause? with
    | some cause => "\nCaused by:\n    ".toList ++ cause ++ ['\n']
    | none => []

end Failure

structure Outcome where
  code : Nat
  stdout : Text
  stderr : Text
  tree : FileTree

namespace Run

/-- A control that steers a terminal is spelled out in a log line. -/
def logChar (c : Char) : Text :=
  if [0x7, 0x8, 0xC, 0x1B, 0x7F].contains c.toNat then "\\x".toList ++ Json.hex2 c.toNat
  else if 0x80 ≤ c.toNat && c.toNat ≤ 0x9F then Text.codePoint c
  else [c]

def logLine (message : Text) : Text := " WARN ".toList ++ message ++ ['\n']

def barrenLine (pattern : Text) : Text := logLine ("no files matched pattern=".toList ++ pattern)

def warningLine (w : Warning) : Text := logLine (w.message.flatMap logChar)

def inputId : Text := "<stdin>".toList

def unversioned : Text := "unversioned".toList

/-- The name of the file of a version: letters, numbers, dots, hyphens and underscores stay. -/
def fileStem (version : Option Text) : Text :=
  match version.bind Text.nonEmpty? with
  | some v => v.map fun c => if isAlphanumeric c || ['.', '-', '_'].contains c then c else '_'
  | none => unversioned

def fileName (format : Format) (d : Document) : Text :=
  fileStem d.version ++ '.' :: format.extension

def sources (line : CommandLine) (tree : FileTree) (stdin : ByteArray) :
    Text × Except Failure Corpus :=
  if line.patterns.isEmpty then
    match Text.ofBytes? stdin with
    | some text => ([], .ok [{ id := inputId, text }])
    | none => ([], .error .badInput)
  else
    let (barren, corpus) := Selection.corpus tree line.patterns
    (barren.flatMap barrenLine, corpus.mapError .badSelection)

def document (line : CommandLine) (edition : Edition) : Document :=
  { title := line.title
    baseUri := line.value? .baseUri
    version := edition.version
    resources := edition.resources }

def documents (line : CommandLine) (editions : Editions) : Except Failure (List Document) :=
  let all := editions.entries.map (document line)
  match line.value? .apiVersion with
  | none => .ok all
  | some wanted =>
    match all.filter fun d => d.version = some wanted with
    | [] => .error (.noVersion wanted)
    | ds => .ok ds

/-- Write documents into a directory. A document whose file was written for an earlier version is
refused, and what was written before stays. -/
def writeDocuments (directory : Text) (format : Format) :
    (written : List Document) → List Document → FileTree → FileTree × Option Failure
  | _, [], tree => (tree, none)
  | written, d :: ds, tree =>
    let file := fileName format d
    match written.find? fun e => fileName format e = file with
    | some earlier =>
      (tree, some (.sameFile (earlier.version.getD unversioned) (d.version.getD unversioned) file))
    | none =>
      let path := Path.join directory file
      match tree.write path (format.render d).toBytes with
      | .error e => (tree, some (.notWritten path e))
      | .ok tree => writeDocuments directory format (written ++ [d]) ds tree

def writeAll (directory : Text) (format : Format) (ds : List Document) (tree : FileTree) :
    FileTree × Option Failure :=
  match tree.makeDirectories directory with
  | .error e => (tree, some (.noDirectory directory e))
  | .ok tree => writeDocuments directory format [] ds tree

def policy (line : CommandLine) : Policy :=
  if line.flags.contains .lenient then .lenient else .strict

/-- The log of surveying the sources, and the format and the documents to write. -/
def prepare (line : CommandLine) (corpus : Corpus) :
    Text × Except Failure (Format × List Document) :=
  let survey := Corpus.survey (policy line) corpus
  let result := do
    let editions ← survey.outcome.mapError .badBlock
    let format ← match Format.ofName? line.format with
      | some format => .ok format
      | none => .error (.unknownFormat line.format)
    let ds ← documents line editions
    return (format, ds)
  (survey.warnings.flatMap warningLine, result)

def fail (log : Text) (tree : FileTree) (failure : Failure) : Outcome :=
  { code := 1, stdout := [], stderr := log ++ failure.report, tree }

def run (line : CommandLine) (tree : FileTree) (stdin : ByteArray) : Outcome :=
  let (readLog, corpus) := sources line tree stdin
  match corpus with
  | .error failure => fail readLog tree failure
  | .ok corpus =>
    let (surveyLog, prepared) := prepare line corpus
    let log := readLog ++ surveyLog
    match prepared with
    | .error failure => fail log tree failure
    | .ok (format, ds) =>
      match line.value? .output with
      | none => { code := 0, stdout := ds.flatMap format.render, stderr := log, tree }
      | some directory =>
        match writeAll directory format ds tree with
        | (tree, some failure) => fail log tree failure
        | (tree, none) => { code := 0, stdout := [], stderr := log, tree }

/-- Run arguments, which are refused with code 2 if they are wrong. -/
def command (args : List Text) (tree : FileTree) (stdin : ByteArray) : Outcome :=
  match CommandLine.ofArgs? args with
  | some line => run line tree stdin
  | none => { code := 2, stdout := [], stderr := [], tree }

end Run

end ApiNotes
