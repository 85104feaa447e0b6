import FeatureAudit.Step
import FeatureAudit.Step.Words

/-!
# Conjunctions that join clauses

A conjunction joins two clauses when a subject or an action comes after it. The first word of a
step cannot join, quoted text does not count, and a placeholder counts as a noun.
-/

set_option autoImplicit false

namespace FeatureAudit.Step

/-- Verbs that open a clause. -/
def actionVerbs : List String :=
  ["click", "clicks", "select", "selects", "enter", "enters", "navigate", "navigates", "submit",
    "submits", "open", "opens", "close", "closes", "type", "types", "press", "presses", "verify",
    "verifies", "see", "sees", "go", "goes", "log", "logs", "login", "logout", "create", "creates",
    "delete", "deletes", "save", "saves", "send", "sends", "check", "checks", "choose", "chooses",
    "add", "adds", "remove", "removes", "fill", "fills", "upload", "uploads", "download",
    "downloads", "wait", "waits", "should"]

/-- Subjects that open a clause. -/
def clauseSubjects : List String := ["i", "we", "you", "he", "she", "they", "user", "the"]

/-- Whether a word opens a clause. -/
def opensClause (w : String) : Bool := clauseSubjects.contains w || actionVerbs.contains w

/-- The first of the words that is a conjunction and is followed by a clause. -/
def joiningIn (conjunctions : List String) : List String → Option String
  | w :: next :: ws =>
    if conjunctions.contains w && opensClause next then some w
    else joiningIn conjunctions (next :: ws)
  | _ => none

/-- The words of a step's body without quotations, a placeholder being a word. -/
def clauseWords (step : String) : List String :=
  wordsOf (substitute afterPlaceholder? " value ".toList
    (substitute afterQuotation? [' '] (bodyChars step)))

/-- The conjunction that joins two clauses of a step. -/
def joiningConjunction? (conjunctions : List String) (step : String) : Option String :=
  joiningIn conjunctions ((clauseWords step).drop 1)

end FeatureAudit.Step
