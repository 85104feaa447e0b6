import FeatureAudit.Text.Case.Folding
import FeatureAudit.Text.Case.Lowering
import FeatureAudit.Text.Case.Raising
import FeatureAudit.Text.Case.Context

/-!
# Case

Folding erases case distinctions and works character by character. Lowering looks at the
surroundings of a capital sigma only. Two characters are alike when a pattern that ignores case
does not tell them apart.
-/

set_option autoImplicit false

namespace FeatureAudit.Text

/-- The case folding of a character. -/
def foldChar (c : Char) : List Char :=
  if c.toNat < 128 then [c.toLower] else Case.foldingTable.map c

/-- The case folding of a text. -/
def fold (s : String) : String := String.ofList (s.toList.flatMap foldChar)

/-- The upper case of a character. -/
def upperChar (c : Char) : List Char :=
  if c.toNat < 128 then [c.toUpper] else Case.raisingTable.map c

/-- The upper case of a text. -/
def upper (s : String) : String := String.ofList (s.toList.flatMap upperChar)

/-- The lower case of a character out of context. -/
def lowerChar (c : Char) : List Char :=
  if c.toNat < 128 then [c.toLower] else Case.loweringTable.map c

/-- The code point of the capital sigma. -/
def capitalSigma : Nat := 0x3A3

/-- A letter with case stands first once marks are passed over. -/
def meetsCased (cs : List Char) : Bool :=
  match cs.dropWhile caseIgnorable.has with
  | [] => false
  | c :: _ => casedLetters.has c

/-- Lower case, with the characters before in reverse; a capital sigma that ends a word becomes
the final small sigma. -/
def lowerAfter : List Char → List Char → List Char
  | _, [] => []
  | before, c :: cs =>
    (if c.toNat == capitalSigma then
      [if meetsCased before && !meetsCased cs then Char.ofNat 0x3C2 else Char.ofNat 0x3C3]
    else lowerChar c) ++ lowerAfter (c :: before) cs

/-- The lower case of a text. -/
def lower (s : String) : String := String.ofList (lowerAfter [] s.toList)

/-! ## Characters alike but for case -/

/-- The single lower-case character of a character. -/
def simpleLower (c : Char) : Char := (lowerChar c).headD c

/-- The first character of the upper case of a character. -/
def simpleUpper (c : Char) : Char := (upperChar c).headD c

/-- Small letters that share a capital letter, or are otherwise read as one letter. -/
def kindredLetters : Array (Nat × List Nat) := #[
  (105, [305]), (115, [383]), (181, [956]), (305, [105]), (383, [115]), (837, [953, 8126]),
  (912, [8147]), (944, [8163]), (946, [976]), (949, [1013]), (952, [977]), (953, [837, 8126]),
  (954, [1008]), (956, [181]), (960, [982]), (961, [1009]), (962, [963]), (963, [962]),
  (966, [981]), (976, [946]), (977, [952]), (981, [966]), (982, [960]), (1008, [954]),
  (1009, [961]), (1013, [949]), (1074, [7296]), (1076, [7297]), (1086, [7298]), (1089, [7299]),
  (1090, [7300, 7301]), (1098, [7302]), (1123, [7303]), (7296, [1074]), (7297, [1076]),
  (7298, [1086]), (7299, [1089]), (7300, [1090, 7301]), (7301, [1090, 7300]), (7302, [1098]),
  (7303, [1123]), (7304, [42571]), (7777, [7835]), (7835, [7777]), (8126, [837, 953]),
  (8147, [912]), (8163, [944]), (42571, [7304]), (64261, [64262]), (64262, [64261])]

/-- The other letters that a small letter is read as. -/
def kindred (c : Char) : List Nat := (entriesAt Prod.fst kindredLetters c.toNat).flatMap Prod.snd

/-- Whether two characters are the same letter when case is ignored. -/
def alike (c d : Char) : Bool :=
  if c == d then true
  else if c.toNat < 128 && d.toNat < 128 then c.toLower == d.toLower
  else
    let l := simpleLower c
    let m := simpleLower d
    l == m || (kindred l).contains m.toNat

end FeatureAudit.Text
