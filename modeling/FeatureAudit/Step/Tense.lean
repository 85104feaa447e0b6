import FeatureAudit.Step
import FeatureAudit.Step.Words

/-!
# Tense of a step

The tense is told by the first verb after a subject that has a form in one of the lists.
-/

set_option autoImplicit false

namespace FeatureAudit.Step

/-- The tenses that are told apart. -/
inductive Tense where
  /-- Present tense. -/
  | present
  /-- Past tense. -/
  | past
  deriving DecidableEq, Repr

/-- The name of a tense. -/
def Tense.name : Tense → String
  | .present => "present"
  | .past => "past"

/-- Subjects whose verb tells the tense. -/
def tenseSubjects : List String := ["i", "user", "we"]

/-- Verbs in the present tense. -/
def presentVerbs : List String :=
  ["am", "is", "are", "do", "does", "have", "has", "click", "clicks", "select", "selects", "enter",
    "enters", "navigate", "navigates", "see", "sees", "view", "views", "open", "opens", "submit",
    "submits", "log", "logs", "go", "goes", "type", "types", "receive", "receives", "create",
    "creates"]

/-- Verbs with a past form of their own. -/
def irregularPast : List String :=
  ["was", "were", "did", "had", "saw", "went", "made", "took", "got", "gave", "came", "wrote",
    "sent", "bought", "paid", "left", "found", "began", "chose", "knew", "ran", "set", "put",
    "read", "logged"]

/-- Whether a word is a verb in the past tense: one of the list, or a word of at least four letters
in `ed` but not in `eed`. -/
def isPast (w : String) : Bool :=
  let back := w.toList.reverse
  irregularPast.contains w ||
    (['d', 'e'].isPrefixOf back && !(['d', 'e', 'e'].isPrefixOf back) && 3 < back.length)

/-- The tense of a verb. -/
def verbTense? (w : String) : Option Tense :=
  if presentVerbs.contains w then some .present else if isPast w then some .past else none

/-- The tense that words tell. -/
def tenseIn : List String → Option Tense
  | subject :: verb :: ws =>
    match if tenseSubjects.contains subject then verbTense? verb else none with
    | some t => some t
    | none => tenseIn (verb :: ws)
  | _ => none

/-- The tense of a step. -/
def tense? (step : String) : Option Tense := tenseIn (wordsOf (bodyChars step))

end FeatureAudit.Step
