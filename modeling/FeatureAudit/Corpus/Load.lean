import FeatureAudit.Corpus.Discovery
import FeatureAudit.Corpus.Parser

/-!
# Loading a corpus

Every document becomes a feature or a failure. A large corpus goes through a pool of workers; if
the pool breaks down, the documents are read again one after the other. Features and failures are
sorted, so the order in which workers finish has no effect.
-/

set_option autoImplicit false

namespace FeatureAudit

/-- What could not be done with a document. -/
inductive Stage where
  /-- Its file could not be read. -/
  | read
  /-- Its octets are no text. -/
  | decode
  deriving DecidableEq, Repr

/-- The name of a stage. -/
def Stage.name : Stage → String
  | .read => "read"
  | .decode => "decode"

/-- A document that could not be parsed. -/
structure Failure where
  /-- Its path. -/
  path : SourcePath
  /-- The name of the stage. -/
  stage : String
  /-- What went wrong. -/
  error : String
  deriving DecidableEq, Repr

/-- Why parsing a document fails. -/
inductive ParseFault where
  /-- The document alone is to blame. -/
  | failed (stage : Stage) (error : String)
  /-- The whole batch ends. -/
  | aborted (cause : Abort)
  deriving DecidableEq, Repr

/-- The fault of a file without text. -/
def ParseFault.ofSource (path : String) (f : Source.Fault) : ParseFault :=
  match f with
  | .access .unusable => .aborted .badValue
  | .access _ => .failed .read (f.kind ++ ": " ++ f.text path)
  | .encoding _ => .failed .decode (f.kind ++ ": " ++ f.text path)

/-- A parsed corpus. -/
structure Load where
  /-- The documents. -/
  paths : List SourcePath
  /-- Their features by path. -/
  features : List Feature
  /-- The failures by path. -/
  failures : List Failure
  /-- Whether a pool of workers did the work. -/
  pooled : Bool

namespace Load

/-- How many documents are still read without a pool. -/
def standardThreshold : Int := 5

/-- A feature or a failure. -/
abbrev Result := Except Failure Feature

/-- Parses a document; its own faults become failures. -/
def guarded (parse : SourcePath → Except ParseFault Feature) (p : SourcePath) :
    Except Abort Result :=
  match parse p with
  | .ok f => .ok (.ok f)
  | .error (.failed stage error) => .ok (.error ⟨p, stage.name, error⟩)
  | .error (.aborted cause) => .error cause

/-- The feature of a result. -/
def feature? : Result → Option Feature
  | .ok f => some f
  | .error _ => none

/-- The failure of a result. -/
def failure? : Result → Option Failure
  | .ok _ => none
  | .error f => some f

/-- Features by path. -/
def sortedFeatures (results : List Result) : List Feature :=
  Text.sortBy (fun f g => Text.compareTexts f.path g.path) (results.filterMap feature?)

/-- Failures by path. -/
def sortedFailures (results : List Result) : List Failure :=
  Text.sortBy (fun f g => Text.compareTexts f.path.text g.path.text) (results.filterMap failure?)

/-- The load of results that came in any order. -/
def ofResults (paths : List SourcePath) (pooled : Bool) (results : List Result) : Load :=
  ⟨paths, sortedFeatures results, sortedFailures results, pooled⟩

/-- Parses documents in an order. -/
def parseAll (parse : SourcePath → Except ParseFault Feature) (order : List SourcePath) :
    Except Abort (List Result) := order.mapM (guarded parse)

/-- Parses documents one after the other. -/
def sequential (parse : SourcePath → Except ParseFault Feature) (paths : List SourcePath) :
    Except Abort Load := (parseAll parse paths).map (ofResults paths false)

/-- Whether a pool of so many workers can start; without a number it can. -/
def poolStarts (workers : Option Int) : Bool := workers.all fun n => 0 < n

/-- Parses documents, in a pool if there are more than the threshold. The parse function is told
how often it was called for the document before. Workers finish in the order `finished`. -/
def run (parse : Nat → SourcePath → Except ParseFault Feature) (threshold : Int)
    (workers : Option Int) (finished paths : List SourcePath) : Except Abort Load :=
  if threshold < paths.length then
    if poolStarts workers then
      match parseAll (parse 0) finished with
      | .ok results => .ok (ofResults paths true results)
      | .error cause =>
        if cause.isRetried then sequential (parse 1) paths else .error cause
    else sequential (parse 0) paths
  else sequential (parse 0) paths

/-- Parses a document of a file tree. -/
def parseFile (t : FileTree) (detect : Bool) (p : SourcePath) : Except ParseFault Feature :=
  match Form.parseAt t detect p with
  | .ok f => .ok f
  | .error fault => .error (ParseFault.ofSource p.text fault)

/-- Discovers and parses the documents that paths stand for. -/
def ofPaths (t : FileTree) (parse : Nat → SourcePath → Except ParseFault Feature)
    (threshold : Int) (workers : Option Int) (ps : List SourcePath) : Except Abort Load :=
  (Discovery.paths t Discovery.standardExclusions ps).bind fun paths =>
    run parse threshold workers paths paths

end Load

end FeatureAudit
