import FeatureAudit.Text.Blank
import FeatureAudit.Text.Case

/-!
# Steps

A step opens with a keyword. The primary keywords tell its category, and the other keywords carry
the category of the step before.
-/

set_option autoImplicit false

namespace FeatureAudit

/-- What a step does in a scenario. -/
inductive StepCategory where
  /-- It sets the scene. -/
  | setting
  /-- It acts. -/
  | action
  /-- It checks an outcome. -/
  | outcome
  deriving DecidableEq, Repr

/-- The primary keyword of a category. -/
def StepCategory.keyword : StepCategory → String
  | .setting => "Given"
  | .action => "When"
  | .outcome => "Then"

namespace Step

/-- The role of a keyword. -/
inductive Role where
  /-- It opens a category. -/
  | primary (category : StepCategory)
  /-- It goes on with the category of the step before. -/
  | continuation
  deriving DecidableEq, Repr

/-- The role of a word in lower case. -/
def role? (word : String) : Option Role :=
  if word = "given" then some (.primary .setting)
  else if word = "when" then some (.primary .action)
  else if word = "then" then some (.primary .outcome)
  else if word = "and" ∨ word = "but" ∨ word = "*" then some .continuation
  else none

/-- The word up to the first space of a trimmed step. -/
def headWord (step : String) : List Char :=
  (Text.trimChars step.toList).takeWhile fun c => c != ' '

/-- The role of a step's keyword, in any case. -/
def roleOf (step : String) : Option Role := role? (Text.lower (String.ofList (headWord step)))

/-- The keyword of a step as it is spelled; empty if there is none. -/
def keyword (step : String) : String :=
  if (roleOf step).isSome then String.ofList (headWord step) else ""

/-- The characters of a step after its keyword. -/
def bodyChars (step : String) : List Char :=
  Text.trimChars ((Text.trimChars step.toList).drop (keyword step).length)

/-- A step after its keyword. -/
def body (step : String) : String := String.ofList (bodyChars step)

/-- The category after a step, from the category before it. -/
def nextCategory (current : Option StepCategory) (step : String) : Option StepCategory :=
  match roleOf step with
  | some (.primary c) => some c
  | some .continuation => current
  | none => none

/-- The categories of steps that follow a category. -/
def categoriesFrom (current : Option StepCategory) : List String → List (Option StepCategory)
  | [] => []
  | s :: ss => nextCategory current s :: categoriesFrom (nextCategory current s) ss

/-- The categories of the steps of a scenario. -/
def categories (steps : List String) : List (Option StepCategory) := categoriesFrom none steps

/-- Whether there are steps and all of them are bullets. -/
def bulletsOnly (steps : List String) : Bool :=
  !steps.isEmpty && steps.all fun s => keyword s == "*"

/-- Steps longer than this are shown in part. -/
def previewLength : Nat := 50

/-- A step as it is shown in messages. -/
def preview (step : String) : String :=
  if previewLength < step.length then
    String.ofList (step.toList.take (previewLength - 3)) ++ "..."
  else step

end Step

end FeatureAudit
