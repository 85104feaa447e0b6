import FeatureAudit.Document.Cells
import FeatureAudit.Feature
import FeatureAudit.Text.Search

/-!
# Writing feature documents

The canonical form of a document: each element under its tags and its keyword line, with its
description, its steps and its tables of examples below.
-/

set_option autoImplicit false

namespace FeatureAudit.Document

/-- The line of some tags; none if there are no tags. -/
def tagLines (tags : List Tag) : List String :=
  if tags.isEmpty then [] else [Text.joinWith " " (tags.map Tag.name)]

/-- The lines of a description; none if it is empty. -/
def descriptionLines (description : String) : List String :=
  if description = "" then [] else (description.toList.splitOn '\n').map String.ofList

/-- The line of a keyword and a name. -/
def keywordLine (keyword name : String) : String := keyword ++ ": " ++ name

/-- The lines of a table of examples; a table without columns has no rows. -/
def exampleLines (e : Example) : List String :=
  keywordLine "Examples" e.name ::
    if e.headers.isEmpty then [] else writeRow e.headers :: e.rows.map writeRow

/-- The lines of a scenario. -/
def scenarioLines (s : Scenario) : List String :=
  tagLines s.tags ++ [keywordLine s.kind.name s.name] ++ descriptionLines s.description ++
    s.steps ++ s.examples.flatMap exampleLines

/-- The lines of a feature. -/
def print (f : Feature) : List String :=
  tagLines f.tags ++ [keywordLine "Feature" f.name] ++ descriptionLines f.description ++
    f.scenarios.flatMap scenarioLines

end FeatureAudit.Document
