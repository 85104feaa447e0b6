import FeatureAudit.Step
import FeatureAudit.Step.Words

/-!
# Ambiguous pronouns

A pronoun is ambiguous when nothing before it in the step can be what it refers to: no quotation,
no placeholder, and no noun that a determiner introduces.
-/

set_option autoImplicit false

namespace FeatureAudit.Step

/-- Pronouns that also introduce nouns. -/
def demonstratives : List String := ["this", "that", "these", "those"]

/-- Words after a demonstrative that show it to be a pronoun. -/
def auxiliaries : List String :=
  ["is", "are", "was", "were", "be", "been", "has", "have", "had", "does", "do", "did", "will",
    "would", "should", "can", "could", "must", "may", "might", "shall", "and", "or", "but", "to",
    "in", "on", "at", "of", "for", "with", "from", "by", "as"]

/-- Words that introduce a noun. -/
def determiners : List String :=
  ["the", "a", "an", "my", "our", "their", "his", "her", "its", "each", "every"]

/-- The word that comes next, if a word does. -/
def nextWord? : List Token → Option String
  | .word w :: _ => some w
  | _ => none

/-- Whether a word introduces a noun that pronouns can refer to. -/
def introduces (pronouns : List String) (w : String) (rest : List Token) : Bool :=
  match nextWord? rest with
  | none => false
  | some next =>
    determiners.contains w ||
      (pronouns.contains w && demonstratives.contains w && !auxiliaries.contains next)

/-- The first ambiguous pronoun among tokens; `known` tells whether something before can be
referred to. -/
def ambiguousIn (pronouns : List String) : Bool → List Token → Option String
  | _, [] => none
  | _, .literal :: ts => ambiguousIn pronouns true ts
  | known, .word w :: ts =>
    if introduces pronouns w ts then ambiguousIn pronouns true ts
    else if pronouns.contains w && !known then some w
    else ambiguousIn pronouns known ts

/-- The first ambiguous pronoun of a step. -/
def ambiguousPronoun? (pronouns : List String) (step : String) : Option String :=
  ambiguousIn pronouns false (tokens (bodyChars step))

end FeatureAudit.Step
