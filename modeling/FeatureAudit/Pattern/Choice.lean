import FeatureAudit.Pattern

/-!
# Classes and alternatives in simple form

A class of one character is that character, and alternatives are simplified: what all of them
begin with is put in front, and alternatives of one character each become a class. In a class a
supplementary character is compared in another way than alone, so the simple form is part of the
meaning of a pattern.
-/

set_option autoImplicit false

namespace FeatureAudit.Pattern

/-- Patterns one after the other. -/
def sequence : List Pattern → Pattern
  | [] => .empty
  | [p] => p
  | p :: ps => .seq p (sequence ps)

/-- The class of members, each once. -/
def ofClass (negated : Bool) (items : List ClassItem) : Pattern :=
  match items.eraseDups with
  | [.single c] => if negated then .other c else .char c
  | items => .set negated items

/-- A pattern for one character or for a place, of which two can be seen to be the same. -/
def isAtom : Pattern → Bool
  | .char _ | .other _ | .any | .set .. | .textStart | .lineEnd | .textEnd | .wordEdge _ => true
  | _ => false

/-- Takes out the atoms with which the first alternative and all others begin: these atoms, what
is left of the first, and what is left of the others. -/
def takeShared : List Pattern → List (List Pattern) →
    List Pattern × List Pattern × List (List Pattern)
  | [], others => ([], [], others)
  | p :: ps, others =>
    if isAtom p && others.all (fun o => o.head? == some p) then
      let (shared, rest, others) := takeShared ps (others.map List.tail)
      (p :: shared, rest, others)
    else ([], p :: ps, others)

/-- The members of an alternative that is a character or a class. -/
def members? : List Pattern → Option (List ClassItem)
  | [.char c] => some [.single c]
  | [.set false items] => some items
  | _ => none

/-- The first of some alternatives that matches. -/
def firstOf : List Pattern → List (List Pattern) → Pattern
  | ps, [] => sequence ps
  | ps, o :: others => .alt (sequence ps) (firstOf o others)

/-- Alternatives in simple form, as patterns one after the other. -/
def choice (first : List Pattern) (others : List (List Pattern)) : List Pattern :=
  if others.isEmpty then first
  else
    let (shared, rest, others) := takeShared first others
    match (rest :: others).mapM members? with
    | some items => shared ++ [.set false items.flatten.eraseDups]
    | none => shared ++ [firstOf rest others]

end FeatureAudit.Pattern
