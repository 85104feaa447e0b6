import FeatureAudit.Abort
import FeatureAudit.Tag.Taxonomy

/-!
# Vocabulary

Patterns of language that steps should avoid, and the words that the prose detectors look for. How
patterns are read and searched for is left to an engine: the vocabulary knows a pattern by its
written form and by what it finds in a text.
-/

set_option autoImplicit false

namespace FeatureAudit

namespace Vocabulary

/-- Patterns about user interfaces. -/
def uiPatterns : List String :=
  ["click(s|ed|ing)?\\s+(on\\s+)?the\\s+", "select(s|ed|ing)?\\s+(from\\s+)?the\\s+",
    "enter(s|ed|ing)?\\s+.+\\s+into\\s+the\\s+", "type(s|ed|ing)?\\s+.+\\s+into\\s+the\\s+",
    "navigate(s|ed|ing)?\\s+to\\s+", "scroll(s|ed|ing)?\\s+(down|up|to)\\s+",
    "hover(s|ed|ing)?\\s+over\\s+the\\s+", "drag(s|ed|ing)?\\s+.+\\s+to\\s+",
    "check(s|ed|ing)?\\s+the\\s+checkbox", "upload(s|ed|ing)?\\s+file"]

/-- Patterns about technical details. -/
def implementationPatterns : List String :=
  ["\\bjs\\b|javascript", "\\bcss\\b|stylesheet", "\\bapi\\s+endpoint",
    "\\bhttp\\b|\\burl\\b|\\buri\\b", "\\bdatabase\\b|\\bsql\\b|\\bquery\\b",
    "\\belement\\s+id\\b|\\bxpath\\b|\\bcss\\s+selector\\b",
    "\\bwait\\s+for\\b|\\btimeout\\b|\\bdelay\\b"]

end Vocabulary

/-- An engine that reads written patterns. -/
class PatternEngine where
  /-- The search for the first match of a written pattern, or why the text is no pattern. -/
  read : String → Except Pattern.Fault (String → Option String)
  /-- The standard patterns are read. -/
  read_standard : ∀ source ∈ Vocabulary.uiPatterns ++ Vocabulary.implementationPatterns,
    ∃ search, read source = .ok search

/-- A pattern with its written form. -/
structure Phrase where
  /-- The written form. -/
  source : String
  /-- The first match of the pattern in a text. -/
  search? : String → Option String

namespace Phrase

/-- The phrase of a written pattern, if it is one. -/
def read? [PatternEngine] (source : String) : Option Phrase :=
  match PatternEngine.read source with
  | .ok search? => some ⟨source, search?⟩
  | .error _ => none

/-- The phrases among written patterns. -/
def readAll [PatternEngine] (sources : List String) : List Phrase := sources.filterMap read?

/-- Why a written pattern ends all work. -/
def abort? [PatternEngine] (source : String) : Option Abort :=
  match PatternEngine.read source with
  | .ok _ => none
  | .error fault => fault.abort?

/-- The phrases among written patterns, unless one ends all work. -/
def checkAll [PatternEngine] (sources : List String) : Except Abort (List Phrase) :=
  match sources.findSome? abort? with
  | some cause => .error cause
  | none => .ok (readAll sources)

/-- The trimmed match of the first phrase that occurs in a text. -/
def firstMatch? (phrases : List Phrase) (text : String) : Option String :=
  phrases.findSome? fun p => (p.search? text).map Text.trim

end Phrase

/-- The vocabulary of the prose detectors. -/
structure Vocabulary where
  /-- Phrases about user interfaces. -/
  uiPhrases : List Phrase
  /-- Phrases about technical details. -/
  implementationPhrases : List Phrase
  /-- Pronouns in lower case. -/
  pronouns : List String
  /-- Conjunctions in lower case. -/
  conjunctions : List String

namespace Vocabulary

/-- The vocabulary in use unless configured otherwise. -/
def standard [PatternEngine] : Vocabulary :=
  { uiPhrases := Phrase.readAll uiPatterns
    implementationPhrases := Phrase.readAll implementationPatterns
    pronouns := ["it", "they", "them", "this", "that", "these", "those"]
    conjunctions := ["and", "but"] }

/-- Whether two vocabularies have the same patterns in order and the same words. -/
def agrees (v w : Vocabulary) : Bool :=
  v.uiPhrases.map (·.source) == w.uiPhrases.map (·.source) &&
    v.implementationPhrases.map (·.source) == w.implementationPhrases.map (·.source) &&
    Taxonomy.sameMembers v.pronouns w.pronouns &&
    Taxonomy.sameMembers v.conjunctions w.conjunctions

end Vocabulary

end FeatureAudit
