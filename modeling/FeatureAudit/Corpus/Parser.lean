import FeatureAudit.Abort
import FeatureAudit.Corpus.Source
import FeatureAudit.Dialect

/-!
# Parsers of feature documents

A document is read in the plain or in the scripted form. Parsers are registered under names that do
not distinguish case.
-/

set_option autoImplicit false

namespace FeatureAudit

/-- The forms of feature documents. -/
inductive Form where
  /-- The plain form. -/
  | plain
  /-- The scripted form, which adds notes on the dialect. -/
  | scripted
  deriving DecidableEq, Repr

namespace Form

/-- The name of a form. -/
def name : Form → String
  | .plain => "gherkin"
  | .scripted => Dialect.name

/-- Reads a text. -/
def read : Form → String → String → Feature
  | .plain, text, path => Document.read text path
  | .scripted, text, path => Dialect.read text path

/-- The form of a text at a path. -/
def ofText (detect : Bool) (text path : String) : Form :=
  if detect && Dialect.looksScripted (Text.lines text) path then .scripted else .plain

/-- The form that a file tells, if that is to be detected. A file without text is in the plain
form, but a path that no file can have is refused. -/
def ofFile (t : FileTree) (detect : Bool) (p : SourcePath) : Except Abort Form :=
  if detect then
    match Source.read t p with
    | .ok text => .ok (ofText true text p.text)
    | .error (.access .unusable) => .error .badValue
    | .error _ => .ok .plain
  else .ok .plain

/-- Adds the notes on the dialect that a file tells to a feature read before. A file that no longer
has a text adds none. -/
def annotateFrom (t : FileTree) (p : SourcePath) (f : Feature) : Except Abort Feature :=
  match Source.read t p with
  | .ok text => .ok (Dialect.annotate f (.ofLines (Text.lines text)))
  | .error (.access .unusable) => .error .badValue
  | .error _ => .ok f

/-- The result of looking at a file again, where a path that is refused is the file's fault. -/
def again {α : Type} (r : Except Abort α) : Except Source.Fault α :=
  r.mapError fun _ => .access .unusable

/-- Reads a file in a form. The notes of the scripted form come from a second look at the file. -/
def parseFile (t : FileTree) (p : SourcePath) : Form → Except Source.Fault Feature
  | .plain => (Source.read t p).map fun text => Document.read text p.text
  | .scripted =>
    ((Source.read t p).map fun text => Document.read text p.text).bind fun f =>
      again (annotateFrom t p f)

/-- Reads a file in the form that it tells. -/
def parseAt (t : FileTree) (detect : Bool) (p : SourcePath) : Except Source.Fault Feature :=
  (again (ofFile t detect p)).bind (parseFile t p)

/-- However often a file is looked at, its form is read from its text. -/
theorem parseFile_eq (t : FileTree) (p : SourcePath) (form : Form) :
    parseFile t p form = (Source.read t p).map fun text => form.read text p.text := by
  cases form with
  | plain => rfl
  | scripted =>
    unfold parseFile annotateFrom
    cases Source.read t p <;> rfl

theorem parseAt_eq (t : FileTree) (detect : Bool) (p : SourcePath) : parseAt t detect p =
    (Source.read t p).map fun text => (ofText detect text p.text).read text p.text := by
  cases detect with
  | false => exact parseFile_eq t p .plain
  | true =>
    rw [parseAt, ofFile, if_pos rfl]
    cases h : Source.read t p with
    | ok text => exact (parseFile_eq t p _).trans (by rw [h]; rfl)
    | error fault =>
      have hplain : parseFile t p .plain = .error fault := by rw [parseFile_eq, h]; rfl
      cases fault with
      | encoding fault => exact hplain
      | access fault =>
        cases fault with
        | unusable => rfl
        | _ => exact hplain

end Form

/-- A parser: its name as registered, and its form unless it has none. -/
structure Parser where
  /-- The name. -/
  name : String
  /-- The form it reads. -/
  form : Option Form
  deriving DecidableEq, Repr

/-- Parsers under their names in lower case. -/
abbrev ParserRegistry := List (String × Parser)

namespace ParserRegistry

/-- The parser of a name in any case. -/
def find? (r : ParserRegistry) (name : String) : Option Parser := r.lookup (Text.lower name)

/-- Registers a parser; one of the same name is replaced. -/
def register (r : ParserRegistry) (p : Parser) : ParserRegistry :=
  (Text.lower p.name, p) :: r

/-- The parsers that are always there. -/
def standard : ParserRegistry :=
  (register [] ⟨Form.plain.name, some .plain⟩).register ⟨Form.scripted.name, some .scripted⟩

/-- Registers a parser that reads as another one does. -/
def registerLike (r : ParserRegistry) (name base : String) : ParserRegistry :=
  r.register ⟨name, (r.find? base).bind Parser.form⟩

end ParserRegistry

end FeatureAudit
