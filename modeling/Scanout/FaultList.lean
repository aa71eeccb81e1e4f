/-!
# Injected faults

A fault makes calls of one name fail: it lets some of them pass first and then fails a
number of them. A call looks only at the first fault of its name.
-/

namespace Scanout

structure Fault where
  callName : String
  /-- How many calls pass before the first one fails. -/
  skip : Nat
  /-- How many calls fail. -/
  times : Nat
  message : String
  deriving DecidableEq, Inhabited

/-- What is left of a fault after a call of its name, and whether that call fails. -/
def Fault.meet (f : Fault) : Option String × Option Fault :=
  if f.skip > 0 then (none, some { f with skip := f.skip - 1 })
  else (some f.message, if f.times ≤ 1 then none else some { f with times := f.times - 1 })

/-- A call of a name meets the first fault of that name: the message it fails with, if it
does, and the faults that are left. -/
def meetFault (callName : String) : List Fault → Option String × List Fault
  | [] => (none, [])
  | f :: rest =>
    if f.callName = callName then
      let (failure, left) := f.meet
      (failure, left.toList ++ rest)
    else
      let (failure, left) := meetFault callName rest
      (failure, f :: left)

end Scanout
