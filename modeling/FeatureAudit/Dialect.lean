import FeatureAudit.Document.Session
import FeatureAudit.Text.WordChar
import FeatureAudit.Text.Digit

/-!
# The scripted dialect

Some documents script requests in bullet steps. Signals on single lines tell the dialect and what
it is used for; a document in the dialect is read like any other and then annotated.
-/

set_option autoImplicit false

namespace FeatureAudit.Dialect

open Text (isBlank isWordChar occurs someRest after?)

/-! ## Signals on a line -/

/-- Text up to its end, at most one line feed at the end left out, if it has no other line feed
and is not empty. -/
def oneLine? (cs : List Char) : Option (List Char) :=
  let body := if cs.getLast? = some '\n' then cs.dropLast else cs
  if body.isEmpty || body.contains '\n' then none else some body

/-- The last character before the end or before a line feed at the end, unless it is itself a
line feed. -/
def lastOnLine? (cs : List Char) : Option (List Char) :=
  match (if cs.getLast? = some '\n' then cs.dropLast else cs).getLast? with
  | some c => if c = '\n' then none else some [c]
  | none => none

/-- The content of a bullet step: what follows a star and white space. After a star and white space
alone, the last blank is the content, if another blank stands before it. -/
def starContent? (line : List Char) : Option (List Char) :=
  match line.dropWhile isBlank with
  | '*' :: rest =>
    let blanks := rest.takeWhile isBlank
    let content := rest.dropWhile isBlank
    if blanks.isEmpty then none
    else if content.isEmpty then lastOnLine? (blanks.drop 1)
    else oneLine? content
  | _ => none

/-- Placeholders for the shape of a response. -/
def schemaMarkers : List String :=
  ["#string", "#number", "#boolean", "#array", "#object", "#null", "#notnull", "#regex", "#uuid",
    "#present", "#notpresent"]

/-- Whether a line has a placeholder for the shape of a response. -/
def hasSchemaMarker (line : List Char) : Bool := schemaMarkers.any fun m => occurs m.toList line

/-- Drops white space of which there must be some. -/
def skipBlanks? : List Char → Option (List Char)
  | [] => none
  | c :: cs => if isBlank c then some (cs.dropWhile isBlank) else none

/-- Whether a brace, a name and a colon come next. -/
def opensData : List Char → Bool
  | '\x7b' :: cs =>
    let isName := fun c => isWordChar c || c == '\x27' || c == '\x22'
    let rest := cs.dropWhile isBlank
    !(rest.takeWhile isName).isEmpty &&
      ((rest.dropWhile isName).dropWhile isBlank).head? == some ':'
  | _ => false

/-- Whether a line has data in braces. -/
def hasEmbeddedData (line : List Char) : Bool := someRest opensData line

/-- Whether a function begins. -/
def opensFunction (cs : List Char) : Bool :=
  match after? "function" cs with
  | some rest => (rest.dropWhile isBlank).head? == some '('
  | none => false

/-- The methods of a request. -/
def requestMethods : List String := ["GET", "POST", "PUT", "DELETE", "PATCH", "HEAD", "OPTIONS"]

/-- Whether the method of a request is named. -/
def opensMethod (cs : List Char) : Bool :=
  match (after? "method" cs).bind skipBlanks? with
  | some rest => requestMethods.any fun m => m.toList.isPrefixOf rest
  | none => false

/-- Whether the status of a response is named. -/
def opensStatus (cs : List Char) : Bool :=
  match (after? "status" cs).bind skipBlanks? with
  | some (c :: _) => Text.isDecimalDigit c
  | _ => false

/-- What follows a name with parts divided by points; `fuel` bounds their number. -/
def afterParts : Nat → List Char → List Char
  | 0, cs => cs
  | fuel + 1, cs =>
    match cs with
    | '.' :: c :: rest => if isWordChar c then afterParts fuel (rest.dropWhile isWordChar) else cs
    | _ => cs

/-- Whether something is matched against something. -/
def opensMatch (cs : List Char) : Bool :=
  match (after? "match" cs).bind skipBlanks? with
  | some (c :: rest) =>
    isWordChar c &&
      (skipBlanks? (afterParts rest.length (rest.dropWhile isWordChar))).isSome
  | _ => false

/-- What lines of a document show. -/
structure Signals where
  /-- A bullet step. -/
  bulletSteps : Bool
  /-- A step of a request. -/
  requestSteps : Bool
  /-- A placeholder for the shape of a response. -/
  schemaAssertions : Bool
  /-- Data in braces. -/
  embeddedData : Bool
  /-- A match of a response. -/
  responseMatching : Bool
  /-- A piece of script. -/
  embeddedScript : Bool
  deriving DecidableEq, Repr

namespace Signals

/-- No signal. -/
def none : Signals := ⟨false, false, false, false, false, false⟩

/-- The signals of either. -/
def or (a b : Signals) : Signals :=
  ⟨a.bulletSteps || b.bulletSteps, a.requestSteps || b.requestSteps,
    a.schemaAssertions || b.schemaAssertions, a.embeddedData || b.embeddedData,
    a.responseMatching || b.responseMatching, a.embeddedScript || b.embeddedScript⟩

/-- The signals of a line. -/
def ofLine (line : List Char) : Signals :=
  let content := starContent? line
  { bulletSteps := content.isSome
    requestSteps := content.any fun cs =>
      someRest opensMethod cs || someRest opensStatus cs || occurs "path".toList cs ||
        occurs "url".toList cs
    schemaAssertions := hasSchemaMarker line
    embeddedData := hasEmbeddedData line
    responseMatching := content.any (someRest opensMatch)
    embeddedScript := content.any fun cs =>
      someRest opensFunction cs || "def ".toList.isPrefixOf cs || occurs "assert ".toList cs }

/-- The signals of lines. -/
def ofLines (ls : List String) : Signals := ls.foldl (fun s l => s.or (ofLine l.toList)) none

/-- Whether the signals tell the dialect. -/
def detected (s : Signals) : Bool := s.bulletSteps || s.schemaAssertions || s.embeddedData

end Signals

/-! ## Annotation -/

/-- Tags that tell the method of a request. -/
def apiTags : List Tag := ["@GET", "@POST", "@PUT", "@DELETE", "@API"].map Tag.named

/-- Whether a scenario has a tag that tells the method of a request. -/
def hasApiTag (f : Feature) : Bool :=
  f.scenarios.any fun s => apiTags.any fun t => t.mentioned s.tags

/-- What is noted about a document in the dialect. -/
def notes (f : Feature) (s : Signals) : Entries :=
  ([("dialect", true), ("hasRequestSteps", s.requestSteps),
    ("hasSchemaAssertions", s.schemaAssertions), ("hasEmbeddedData", s.embeddedData),
    ("hasResponseMatching", s.responseMatching), ("hasEmbeddedScript", s.embeddedScript),
    ("hasApiOperations", hasApiTag f)].filter (·.2)).map fun (name, b) => (name, .flag b)

/-- Annotates a feature whose document is in the dialect. -/
def annotate (f : Feature) (s : Signals) : Feature :=
  if s.detected then f.withMetadata (notes f s) else f

/-! ## Detection -/

/-- The name of the dialect. -/
def name : String := "karate"

/-- Lines that are looked at. -/
def lineLimit : Nat := 50

/-- Phrases that tell the dialect. -/
def phrases : List String := ["method GET", "method POST", "status ", "match ", "url "]

/-- Whether a line counts when the first lines are looked at. -/
def counts (line : List Char) : Bool :=
  let cs := line.dropWhile isBlank
  !cs.isEmpty && cs.head? != some '#'

/-- Whether a line tells the dialect. -/
def tells (line : List Char) : Bool :=
  (starContent? line).isSome || hasSchemaMarker line || phrases.any fun p => occurs p.toList line

/-- Whether a line that tells the dialect is found, when `seen` lines that count have been looked at.
Lines that do not count are skipped. The search is given up at the first line that counts and would
be one too many. -/
def foundAfter (seen : Nat) : List String → Bool
  | [] => false
  | l :: ls =>
    if !counts l.toList then foundAfter seen ls
    else if lineLimit ≤ seen then false
    else tells l.toList || foundAfter (seen + 1) ls

/-- Whether the first lines that are neither blank nor comments, or the path, tell the dialect. -/
def looksScripted (ls : List String) (path : String) : Bool :=
  foundAfter 0 ls || Text.contains (Text.lower path) name

/-- The feature that a text in the dialect describes. -/
def read (text path : String) : Feature :=
  annotate (Document.read text path) (Signals.ofLines (Text.lines text))

end FeatureAudit.Dialect
