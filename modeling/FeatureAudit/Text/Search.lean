/-!
# Looking for a phrase

Whether a phrase occurs in a text, and whether some rest of a text has a property.
-/

set_option autoImplicit false

namespace FeatureAudit.Text

/-- Whether a rest of the list, the whole and the empty one included, has a property. -/
def someRest (p : List Char → Bool) : List Char → Bool
  | [] => p []
  | c :: cs => p (c :: cs) || someRest p cs

/-- Whether a phrase occurs somewhere. -/
def occurs (phrase cs : List Char) : Bool := someRest phrase.isPrefixOf cs

/-- The rest after a phrase that opens the list. -/
def after? (phrase : String) (cs : List Char) : Option (List Char) := phrase.toList.isPrefixOf? cs

/-- Whether a phrase occurs in a text. -/
def contains (s phrase : String) : Bool := occurs phrase.toList s.toList

/-- Texts put together with a separator between neighbours. -/
def joinWith (sep : String) : List String → String
  | [] => ""
  | s :: ss => ss.foldl (fun joined t => joined ++ sep ++ t) s

end FeatureAudit.Text
