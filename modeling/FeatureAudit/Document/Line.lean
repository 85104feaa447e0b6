import FeatureAudit.Document.Cells
import FeatureAudit.Feature

/-!
# Lines of a feature document

A trimmed line is of one of ten classes, told by how it begins. The classes exclude each other;
what a line does to a document depends besides on what stands before it.
-/

set_option autoImplicit false

namespace FeatureAudit.Document

/-- The marks between which a block of text is skipped. -/
inductive Fence where
  /-- Three quotation marks. -/
  | quotes
  /-- Three grave accents. -/
  | graves
  deriving DecidableEq, Repr

/-- The characters of a fence. -/
def Fence.mark : Fence → String
  | .quotes => "\"\"\""
  | .graves => "```"

/-- Whether a trimmed line begins with a fence. -/
def Fence.opens (f : Fence) (cs : List Char) : Bool := f.mark.toList.isPrefixOf cs

/-- The fence at the beginning of a trimmed line. -/
def fence? (cs : List Char) : Option Fence :=
  if Fence.quotes.opens cs then some .quotes
  else if Fence.graves.opens cs then some .graves
  else none

/-! ## Steps -/

/-- The words that open a step. -/
def stepKeywords : List String := ["Given", "When", "Then", "And", "But", "*"]

/-- Whether white space or the end of the line comes next. -/
def endsWord : List Char → Bool
  | [] => true
  | c :: _ => Text.isBlank c

/-- Whether a trimmed line is a step. -/
def isStep (cs : List Char) : Bool :=
  stepKeywords.any fun k =>
    match k.toList.isPrefixOf? cs with
    | some rest => endsWord rest
    | none => false

/-! ## Tag lines -/

/-- Words that all carry the sign of a tag; a word that opens a comment ends them. -/
def leadingTags : List (List Char) → Option (List (List Char))
  | [] => some []
  | w :: ws =>
    if w.head? = some '#' then some []
    else if w.head? = some sigil ∧ w ≠ [sigil] then (leadingTags ws).map (w :: ·)
    else none

/-- The tags of a tag line, which has at least one and nothing else besides a comment. -/
def tagTokens? (cs : List Char) : Option (List String) :=
  match leadingTags (Text.wordsOf cs) with
  | some (w :: ws) => some ((w :: ws).map String.ofList)
  | _ => none

/-! ## Keyword lines -/

/-- The trimmed text after a keyword. A line feed within the text means that this is no keyword
line. -/
def headline? (keyword : String) (cs : List Char) : Option String :=
  match keyword.toList.isPrefixOf? cs with
  | none => none
  | some rest =>
    let text := Text.trimStart rest
    if '\n' ∈ text then none else some (String.ofList (Text.trimEnd text))

/-- The keywords of scenarios. -/
def scenarioKeywords : List (String × ScenarioKind) :=
  [("Background:", .background), ("Scenario Outline:", .outline), ("Scenario Template:", .outline),
    ("Scenario:", .scenario), ("Example:", .scenario), ("Rule:", .rule)]

/-- The kind and name on a scenario's keyword line. -/
def scenarioHeadline? (cs : List Char) : Option (ScenarioKind × String) :=
  scenarioKeywords.findSome? fun (keyword, kind) => (headline? keyword cs).map fun name => (kind, name)

/-- The name on the keyword line of a table of examples. -/
def examplesHeadline? (cs : List Char) : Option String :=
  ["Examples:", "Scenarios:"].findSome? fun keyword => headline? keyword cs

/-! ## Classes of lines -/

/-- The class of a trimmed line. -/
inductive Line where
  /-- Nothing. -/
  | blank
  /-- A comment. -/
  | comment
  /-- A table row. -/
  | row
  /-- The beginning or end of a block that is skipped. -/
  | fence (f : Fence)
  /-- A step. -/
  | step
  /-- A line of tags. -/
  | tags (names : List String)
  /-- The keyword line of a feature. -/
  | feature (name : String)
  /-- The keyword line of a scenario. -/
  | scenario (kind : ScenarioKind) (name : String)
  /-- The keyword line of a table of examples. -/
  | examples (name : String)
  /-- Anything else. -/
  | text
  deriving DecidableEq, Repr

/-- The class of a trimmed line. -/
def Line.classify (cs : List Char) : Line :=
  if cs.isEmpty then .blank
  else if cs.head? = some '#' then .comment
  else if isRow cs then .row
  else match fence? cs with
  | some f => .fence f
  | none =>
    if isStep cs then .step
    else match tagTokens? cs with
    | some names => .tags names
    | none =>
      match headline? "Feature:" cs with
      | some name => .feature name
      | none =>
        match scenarioHeadline? cs with
        | some (kind, name) => .scenario kind name
        | none =>
          match examplesHeadline? cs with
          | some name => .examples name
          | none => .text

end FeatureAudit.Document
