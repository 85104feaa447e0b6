import FeatureAudit.Config
import FeatureAudit.Abort
import FeatureAudit.Corpus.Source
import FeatureAudit.Toml

/-!
# Configuration files

A configuration is read from a file of a file tree. A file that is not there, cannot be read or is
not well formed gives an empty document. A number or a pattern beyond all limits ends the work.
-/

set_option autoImplicit false

namespace FeatureAudit.Config

/-- The name of the configuration file. -/
def fileName : String := "ftoc.toml"

/-- The path of the configuration file: the one that is named, or the one in a directory. -/
def filePath (root path : Option SourcePath) : SourcePath :=
  match path with
  | some p => p
  | none => (root.getD (.ofText "")).below [fileName]

/-- The document of a configuration file, with what is to be said about it. -/
def loadDocument (t : FileTree) (p : SourcePath) : Except Abort (Entries × List Notice) :=
  match Source.readPlain t p with
  | .error (.access .unusable) => .error .badValue
  | .error (.access .missing) => .ok ([], [])
  | .error fault => .ok ([], [.unreadable p.text fault.kind])
  | .ok text =>
    match Toml.read text with
    | .error .malformed => .ok ([], [.malformed p.text])
    | .error .tooManyDigits => .error .badValue
    | .ok [] => .ok ([], [])
    | .ok entries => .ok (entries, [.loaded p.text])

/-- The configuration of a file, whose sections are replaced by those of `overrides`. -/
def load [FieldReader] [PatternEngine] (t : FileTree) (p : SourcePath) (overrides : Entries) :
    Except Abort (Config × List Notice) :=
  (loadDocument t p).bind fun (entries, notices) =>
    (ofValue (.table (Entries.overlay entries overrides))).map fun (config, more) =>
      (config, notices ++ more)

end FeatureAudit.Config
