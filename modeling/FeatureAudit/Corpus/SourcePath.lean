import FeatureAudit.Text.Order
import FeatureAudit.Text.Search

/-!
# Paths of documents

A path is a list of names below a root. Its text form has one slash between names; empty names and
single points vanish, while double points stay.
-/

set_option autoImplicit false

namespace FeatureAudit

/-- A path. -/
structure SourcePath where
  /-- The slashes of an absolute path, one or two; empty for a relative path. -/
  root : String
  /-- The names, none of them empty or a single point. -/
  parts : List String
  deriving DecidableEq, Repr

namespace SourcePath

/-- The names between slashes. -/
def namesOf (cs : List Char) : List String :=
  ((cs.splitOnP fun c => c == '/').map String.ofList).filter fun s => s != "" && s != "."

/-- The root that opens a path: two slashes count as such, more as one. -/
def rootOf (cs : List Char) : String :=
  match (cs.takeWhile fun c => c == '/').length with
  | 0 => ""
  | 2 => "//"
  | _ => "/"

/-- The path of a text. -/
def ofText (s : String) : SourcePath := ⟨rootOf s.toList, namesOf s.toList⟩

/-- The names as they are written: the path without names is a point. -/
def steps (p : SourcePath) : List String :=
  if p.root.isEmpty && p.parts.isEmpty then ["."] else p.parts

/-- The text of a path with names put behind it. A point stays in front of them. -/
def textWith (p : SourcePath) (names : List String) : String :=
  p.root ++ Text.joinWith "/" (p.steps ++ names)

/-- The text of a path. -/
def text (p : SourcePath) : String := p.textWith []

/-- The last name, or an empty text. -/
def name (p : SourcePath) : String := p.parts.getLast?.getD ""

/-- A path below a path. -/
def below (p : SourcePath) (names : List String) : SourcePath := ⟨p.root, p.parts ++ names⟩

/-- The names with the root in front. -/
def keys (p : SourcePath) : List String := if p.root.isEmpty then p.parts else p.root :: p.parts

/-- Order by root and names. -/
def compare (p q : SourcePath) : Ordering := Text.compareLists Text.compareTexts p.keys q.keys

end SourcePath

end FeatureAudit
