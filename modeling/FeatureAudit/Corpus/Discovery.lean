import FeatureAudit.Abort
import FeatureAudit.Corpus.FileTree

/-!
# Discovery of feature documents

Directories stand for the feature documents that a walk from the top down meets below them; it goes
into no excluded directory, and down as many levels as there are. Every other path stands for itself,
so that a missing file is reported later on.
-/

set_option autoImplicit false

namespace FeatureAudit.Discovery

/-- How the names of feature documents end. -/
def suffix : String := ".feature"

/-- Whether a name is that of a feature document. -/
def isFeatureName (name : String) : Bool := suffix.toList.reverse.isPrefixOf name.toList.reverse

/-- Directories that are left out unless others are named. -/
def standardExclusions : List String := [".git", "node_modules", "target", "build"]

/-- Whether a path is a directory. What cannot be looked up is none, but a name that is too long and
a directory that must not be searched are refused. -/
def isDirectory (t : FileTree) (p : SourcePath) : Except Abort Bool :=
  match t.lookup p with
  | .ok .directory => .ok true
  | .error .nameTooLong => .error .nameTooLong
  | .error .denied => .error .denied
  | _ => .ok false

/-- Whether the directory that names lead to from a path can be listed: its text, which has the
names behind that of the path, must not be too long, and the directory must be found and be open. -/
def isListed (t : FileTree) (p : SourcePath) (names : List String) : Bool :=
  match t.follow p names with
  | .ok .directory =>
    t.mayRead (t.place p ++ names) &&
      decide ((p.textWith names).utf8ByteSize < FileTree.pathLimit)
  | _ => false

/-- The names of the feature documents that stand in the directory that names lead to from a path,
and in as many levels of directories below as are given. Excluded directories are not gone into, and
those that cannot be listed are passed over. -/
def walk (t : FileTree) (excluded : List String) (p : SourcePath) :
    Nat → List String → List (List String)
  | 0, _ => []
  | levels + 1, names =>
    if isListed t p names then
      let here := t.place p ++ names
      ((t.fileNames here).filter isFeatureName).map (fun name => names ++ [name]) ++
        ((t.directoryNames here).filter fun d => !excluded.contains d).flatMap
          fun d => walk t excluded p levels (names ++ [d])
    else []

/-- The feature documents below a directory. -/
def documentsBelow (t : FileTree) (excluded : List String) (p : SourcePath) : List SourcePath :=
  (walk t excluded p t.depth []).map p.below

/-- What a path stands for. -/
def expand (t : FileTree) (excluded : List String) (p : SourcePath) :
    Except Abort (List SourcePath) :=
  (isDirectory t p).map fun isDir => if isDir then documentsBelow t excluded p else [p]

/-- The documents that paths stand for, each once and in order. -/
def paths (t : FileTree) (excluded : List String) (ps : List SourcePath) :
    Except Abort (List SourcePath) :=
  (ps.mapM (expand t excluded)).map fun found =>
    (Text.sortBy SourcePath.compare found.flatten).eraseDups

end FeatureAudit.Discovery
