import Scanout.ErrnoText

/-!
# System errors

A request to the system fails with a numbered error, or with a message of whoever refused
it on the way. Both are told in words.
-/

namespace Scanout

inductive SystemErrorKind
  | notFound
  | invalidInput
  | invalidData
  | other
  deriving DecidableEq, Inhabited

inductive SystemError
  | numbered (errno : Int)
  | described (kind : SystemErrorKind) (text : String)
  deriving DecidableEq, Inhabited

/-- The error as it is known by name: a number that is not in use says no more than 0 does. -/
def SystemError.byName : SystemError → SystemError
  | numbered errno => if (errnoText? errno).isSome then numbered errno else numbered 0
  | described kind text => described kind text

/-- The error in words; a numbered one ends with its number. -/
def SystemError.message : SystemError → String
  | numbered errno => errnoText errno ++ " (os error " ++ toString errno ++ ")"
  | described _ text => text

end Scanout
