import FeatureAudit.Warning.Type

/-!
# Advice on findings

What a type of finding means, and what can be done about it.
-/

set_option autoImplicit false

namespace FeatureAudit.WarningType

/-- A short title. -/
def description : WarningType → String
  | .missingPriorityTag => "Missing priority tag"
  | .missingTypeTag => "Missing type tag"
  | .lowValueTag => "Low-value tag"
  | .duplicateTag => "Duplicate tag"
  | .excessiveTags => "Excessive tags"
  | .orphanedTag => "Orphaned tag (used only once)"
  | .tagTypo => "Possible tag typo"
  | .inconsistentTagging => "Inconsistent tagging"
  | .ambiguousTag => "Ambiguous tag"
  | .tooGenericTag => "Too generic tag"
  | .longScenario => "Long scenario"
  | .tooFewSteps => "Too few steps"
  | .missingGiven => "Missing Given step"
  | .missingWhen => "Missing When step"
  | .missingThen => "Missing Then step"
  | .incorrectStepOrder => "Incorrect step order"
  | .uiFocusedStep => "UI-focused step"
  | .implementationDetail => "Implementation detail in step"
  | .missingExamples => "Missing examples in Scenario Outline"
  | .tooFewExamples => "Too few examples in Scenario Outline"
  | .ambiguousPronoun => "Ambiguous pronoun in step"
  | .inconsistentTense => "Inconsistent tense in steps"
  | .conjunctionInStep => "Conjunction in step"
  | .longScenarioName => "Long scenario name"
  | .longStepText => "Long step text"

/-- What can be done. -/
def remediation : WarningType → List String
  | .missingPriorityTag =>
    ["Add a priority tag like @P0 (highest), @P1, @P2, or @P3 (lowest)",
      "Alternatively, add a semantic priority tag like @Critical, @High, @Medium, or @Low"]
  | .missingTypeTag =>
    ["Add a type tag that describes the test type (e.g., @UI, @API, @Integration)",
      "Type tags help with test selection and organization"]
  | .lowValueTag =>
    ["Replace with more specific, meaningful tags",
      "Tags should help with test selection and documentation"]
  | .duplicateTag =>
    ["Remove duplicate tags",
      "Tags at the feature level apply to all scenarios"]
  | .excessiveTags =>
    ["Consolidate similar tags",
      "Ensure tags serve a clear purpose (selection, documentation, or automation)"]
  | .orphanedTag =>
    ["Tags used only once don't help group related scenarios",
      "Check if it should be consistent with other similar tags"]
  | .tagTypo =>
    ["Standardize on a single spelling",
      "Correct the tag spelling for consistency"]
  | .inconsistentTagging =>
    ["Standardize on a single priority tag style (e.g., @P0-@P3 or @Critical/@High/@Medium/@Low)",
      "Document the preferred tag style in a team guideline"]
  | .ambiguousTag =>
    ["Use more descriptive tag names",
      "Short tags are hard to understand and maintain"]
  | .tooGenericTag =>
    ["Overly common tags don't help discriminate between tests",
      "If a tag is needed on most features, make it a convention rather than a tag"]
  | .longScenario =>
    ["Break the scenario into multiple smaller, focused scenarios",
      "Consider using a Background for shared setup steps"]
  | .tooFewSteps =>
    ["A complete scenario typically needs at least setup (Given) and verification (Then) steps"]
  | .missingGiven =>
    ["Add a Given step to establish the initial context/state"]
  | .missingWhen =>
    ["Add a When step to describe the action being tested"]
  | .missingThen =>
    ["Add a Then step to verify the expected outcome"]
  | .incorrectStepOrder =>
    ["Follow the Given-When-Then sequence (setup, action, verification)",
      "Consider splitting the scenario if the flow doesn't fit the pattern"]
  | .uiFocusedStep =>
    ["Focus on the business behavior rather than UI implementation",
      "Example: Instead of \"When I click the Submit button\", use \"When I submit the form\""]
  | .implementationDetail =>
    ["Remove technical implementation details from scenario steps",
      "Example: Instead of \"When the API returns 200 OK\", use \"When the operation succeeds\""]
  | .missingExamples =>
    ["Add at least one Examples table to the Scenario Outline"]
  | .tooFewExamples =>
    ["Add more example rows to better test the scenario variations",
      "Consider boundary values and edge cases"]
  | .ambiguousPronoun =>
    ["Use specific nouns instead of pronouns for clarity",
      "Example: Instead of \"When I click it\", use \"When I click the button\""]
  | .inconsistentTense =>
    ["Standardize on a single tense throughout the scenario",
      "Present tense is generally preferred (\"I click\" rather than \"I clicked\")"]
  | .conjunctionInStep =>
    ["Split steps with conjunctions into separate steps",
      "Each step should describe a single action or assertion"]
  | .longScenarioName =>
    ["Shorten the scenario name and move details into the steps"]
  | .longStepText =>
    ["Move complex data to examples, a DocString, or a DataTable"]

end FeatureAudit.WarningType
