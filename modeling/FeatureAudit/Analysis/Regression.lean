import FeatureAudit.Decimal.Binary64

/-!
# Least squares

The slope of the line that fits values best against their places `0, 1, 2, …` is a quotient. Its
numerator is computed in any arithmetic, its denominator depends on the number of values alone.
-/

set_option autoImplicit false

namespace FeatureAudit.Regression

/-- The operations of an arithmetic. -/
structure Arithmetic (α : Type) where
  /-- A natural number. -/
  ofNat : Nat → α
  /-- The sum. -/
  add : α → α → α
  /-- The difference. -/
  sub : α → α → α
  /-- The product. -/
  mul : α → α → α

/-- Whole numbers. -/
def Arithmetic.integers : Arithmetic Int := ⟨Int.ofNat, Int.add, Int.sub, Int.mul⟩

/-- Doubles. -/
def Arithmetic.doubles : Arithmetic Float := ⟨Float.ofNat, Float.add, Float.sub, Float.mul⟩

/-- The sum of values from the left. -/
def sum {α : Type} (A : Arithmetic α) (values : List α) : α := values.foldl A.add (A.ofNat 0)

/-- The values, each multiplied by its place. -/
def moments {α : Type} (A : Arithmetic α) (values : List α) : List α :=
  values.zipIdx.map fun (v, i) => A.mul (A.ofNat i) v

/-- The sum of the places of `n` values. -/
def placeSum (n : Nat) : Nat := (List.range n).foldl (· + ·) 0

/-- The sum of the squares of the places of `n` values. -/
def squareSum (n : Nat) : Nat := (List.range n).foldl (fun s i => s + i * i) 0

/-- The numerator of the slope. -/
def numerator {α : Type} (A : Arithmetic α) (values : List α) : α :=
  A.sub (A.mul (A.ofNat values.length) (sum A (moments A values)))
    (A.mul (A.ofNat (placeSum values.length)) (sum A values))

/-- The denominator of the slope of `n` values. -/
def denominator (n : Nat) : Int := n * squareSum n - placeSum n * placeSum n

/-- The slope of values in an arithmetic, with the quotient that is made of its numerator and its
denominator; zero for less than two values, and where nothing can be divided. -/
def slopeWith {α β : Type} (A : Arithmetic α) (zero : β) (quotient : α → Int → β)
    (values : List α) : β :=
  if values.length < 2 then zero
  else if denominator values.length = 0 then zero
  else quotient (numerator A values) (denominator values.length)

/-- The slope of doubles, in the arithmetic of doubles. -/
def slope (values : List Float) : Float :=
  slopeWith .doubles 0.0 (fun x d => x / Float.ofInt d) values

/-- The double nearest to the exact slope of whole numbers. -/
def exactSlope (values : List Int) : Float :=
  slopeWith .integers 0.0 (fun x d => Decimal.nearest x d.toNat) values

end FeatureAudit.Regression
