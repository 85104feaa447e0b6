import FeatureAudit.Text.Blank
import FeatureAudit.Text.Case
import FeatureAudit.Text.Quoted
import FeatureAudit.EditDistance

/-!
# Tags

A tag is a marker such as `@Smoke`. Its name carries the sign `@` and keeps its spelling; tags
that differ only in case are the same tag.
-/

set_option autoImplicit false

namespace FeatureAudit

/-- The sign that opens every tag. -/
def sigil : Char := '@'

/-- The characters of a name with the sign in front, which is added if it is not there. -/
def Tag.withSigil (cs : List Char) : List Char := if cs.head? = some sigil then cs else sigil :: cs

theorem Tag.head?_withSigil (cs : List Char) : (Tag.withSigil cs).head? = some sigil := by
  unfold Tag.withSigil
  split
  · assumption
  · rfl

/-- A tag, with its name as it is displayed. The folded name is kept beside it, because tags are
compared far more often than they are made. -/
structure Tag where
  /-- The name with its sign. -/
  name : String
  /-- The sign opens the name. -/
  signed : name.toList.head? = some sigil
  /-- The name without case distinctions. Tags with equal folded names are the same tag. -/
  folded : String := Text.fold name
  /-- The folded name is that of the name. -/
  folded_eq : folded = Text.fold name := by rfl
  deriving DecidableEq, Repr

namespace Tag

/-- The tag with a name, to which the sign is added if it is missing. -/
def named (name : String) : Tag where
  name := String.ofList (withSigil name.toList)
  signed := by rw [String.toList_ofList, head?_withSigil]

/-- Why a raw name is no tag. -/
inductive Fault where
  /-- There is no name. -/
  | missing
  /-- The name has nothing besides white space and the sign. -/
  | empty (raw : String)
  deriving DecidableEq, Repr

/-- The wording of a fault. -/
def Fault.message : Fault → String
  | .missing => "Tag name cannot be empty: None"
  | .empty raw => "Tag name cannot be empty: " ++ Text.quoted raw

/-- The tag of a raw name, trimmed and with its sign. -/
def of? (raw : String) : Option Tag :=
  let cs := Text.trimChars raw.toList
  if cs = [] ∨ cs = [sigil] then none else some (named (String.ofList cs))

/-- The tag of a raw name, or why there is none. -/
def of (raw : String) : Except Fault Tag :=
  match of? raw with
  | some t => .ok t
  | none => .error (.empty raw)

/-- The tag of a raw name that may be missing, or why there is none. -/
def ofRaw : Option String → Except Fault Tag
  | none => .error .missing
  | some raw => of raw

/-- The tags of raw names up to the first name that is none, with its fault. -/
def leading : List (Option String) → List Tag × Option Fault
  | [] => ([], none)
  | raw :: raws =>
    match ofRaw raw with
    | .error fault => ([], some fault)
    | .ok t =>
      let (ts, fault) := leading raws
      (t :: ts, fault)

/-- Whether two tags are the same tag. -/
def same (t u : Tag) : Bool := t.folded == u.folded

/-- Whether a tag is mentioned in a list. -/
def mentioned (t : Tag) (tags : List Tag) : Bool := tags.any t.same

/-- Characters that set parts of a name apart. -/
def isSeparator (c : Char) : Bool := c == '_' || c == '-' || c == '.'

/-- The comparison key: the folded name without sign and separators. -/
def key (t : Tag) : List Char :=
  ((t.name.toList.drop 1).flatMap Text.foldChar).filter fun c => !isSeparator c

/-- The edit distance of the comparison keys. -/
def distance (t u : Tag) : Nat := EditDistance.distance t.key u.key

/-- Whether two tags are so close that one may be a misspelling of the other. -/
def similar (t u : Tag) : Bool := t.distance u ≤ 2

/-- The first mention of every tag, in order. -/
def distinct : List Tag → List Tag
  | [] => []
  | t :: ts => t :: (distinct ts).filter fun u => !t.same u

end Tag

end FeatureAudit
