import FeatureAudit.Config.File
import FeatureAudit.Outcome

/-!
# Audits of file trees

A run finds the configuration, loads the corpus, chooses features by their tags and audits them.
-/

set_option autoImplicit false

namespace FeatureAudit

/-- Which features are chosen by their tags. -/
structure Selection where
  /-- Features need one of these tags, if there are any. -/
  wanted : List Tag
  /-- Features must have none of these tags. -/
  unwanted : List Tag
  deriving DecidableEq, Repr

namespace Selection

/-- The selection of raw names. -/
def ofRaws (wanted unwanted : List (Option String)) : Except Tag.Fault Selection := do
  let wanted ← wanted.mapM Tag.ofRaw
  let unwanted ← unwanted.mapM Tag.ofRaw
  return ⟨wanted, unwanted⟩

/-- Whether a feature is chosen. -/
def keeps (s : Selection) (f : Feature) : Bool :=
  (s.wanted.isEmpty || f.carriesAny s.wanted) && (s.unwanted.isEmpty || !f.carriesAny s.unwanted)

/-- The features that are chosen. -/
def filter (s : Selection) (features : List Feature) : List Feature := features.filter s.keeps

end Selection

/-- What a run is asked for. -/
structure Request where
  /-- Where to look for documents. -/
  paths : List SourcePath
  /-- The configuration, unless it is to be loaded. -/
  config : Option Config
  /-- The path of the configuration file. -/
  configPath : Option SourcePath
  /-- The directory of the configuration file. -/
  root : Option SourcePath
  /-- Raw names of wanted tags. -/
  wanted : List (Option String)
  /-- Raw names of unwanted tags. -/
  unwanted : List (Option String)
  /-- How many documents are read without a pool. -/
  threshold : Int
  /-- The number of workers of the pool. -/
  workers : Option Int
  /-- Whether the form of documents is detected. -/
  detect : Bool

/-- Why a run gives no outcome. -/
inductive RunFault where
  /-- The batch ended. -/
  | aborted (cause : Abort)
  /-- A name is no tag. -/
  | badTag (fault : Tag.Fault)
  deriving DecidableEq, Repr

namespace Request

/-- The configuration of a run, with what is to be said about it. -/
def settledConfig [Config.FieldReader] [PatternEngine] (r : Request) (t : FileTree) :
    Except Abort (Config × List Notice) :=
  match r.config with
  | some c => .ok (c, [])
  | none => Config.load t (Config.filePath r.root r.configPath) []

/-- Loads the corpus of a run. -/
def load (r : Request) (t : FileTree) : Except Abort Load :=
  Load.ofPaths t (fun _ => Load.parseFile t r.detect) r.threshold r.workers r.paths

/-- The features that are chosen from a load, with what is to be said about it. -/
def choose (r : Request) (l : Load) : Except Tag.Fault (List Feature × List Notice) :=
  if r.wanted.isEmpty && r.unwanted.isEmpty then .ok (l.features, [])
  else
    (Selection.ofRaws r.wanted r.unwanted).map fun s =>
      (s.filter l.features, [.filtered (s.filter l.features).length l.features.length])

/-- Runs an audit. -/
def run [Config.FieldReader] [PatternEngine] (r : Request) (t : FileTree) :
    Except RunFault (Outcome × List Notice) := do
  let (config, notices) ← (r.settledConfig t).mapError .aborted
  let load ← (r.load t).mapError .aborted
  let (features, more) ← (r.choose load).mapError .badTag
  match Outcome.ofFeatures? config features load.failures load.paths with
  | some outcome => return (outcome, notices ++ more ++ [.finished outcome.summary])
  | none => .error (.aborted .badValue)

end Request

end FeatureAudit
