/-!
# Aborts

What ends a whole piece of work, such as a batch of files or the reading of a configuration,
instead of a part of it.
-/

set_option autoImplicit false

namespace FeatureAudit

/-- Why a piece of work ends. -/
inductive Abort where
  /-- A value has no meaning, such as a path with a character that no path may have. -/
  | badValue
  /-- A number is too large. -/
  | tooLarge
  /-- The work broke down. -/
  | brokenDown
  /-- Something that has to be there is not. -/
  | absent
  /-- A path that is looked up is too long. -/
  | nameTooLong
  /-- A path that is looked up lies below a directory that must not be searched. -/
  | denied
  deriving DecidableEq, Repr

/-- Why a text is no pattern. -/
inductive Pattern.Fault where
  /-- It is not well formed. -/
  | malformed
  /-- A repetition has a bound that is too large. -/
  | hugeBound
  /-- A bound has more digits than can be read. -/
  | longBound
  deriving DecidableEq, Repr

/-- How a text that is no pattern ends all work. One that is not well formed does not. -/
def Pattern.Fault.abort? : Pattern.Fault → Option Abort
  | .malformed => none
  | .hugeBound => some .tooLarge
  | .longBound => some .badValue

/-- Whether a batch is done again, one file after the other, if it ends so in a pool of workers. -/
def Abort.isRetried : Abort → Bool
  | .badValue => true
  | .brokenDown => true
  | _ => false

end FeatureAudit
