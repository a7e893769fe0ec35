/-!
The operations that the registry carries out in its own time.

* `OperationStatus.ofRegistry`: the state that the registry's words stand for;
* `OperationStatus.isTerminal`: whether it will not change any more.
-/

namespace Discovery

/-- The state of an operation. -/
inductive OperationStatus
  | submitted
  | pending
  | success
  | fail (reason : String)
  deriving DecidableEq, Repr

namespace OperationStatus

/-- The state that a status word and an error message of the registry stand
for; a word that is not known counts as submitted. -/
def ofRegistry (word : String) (message : Option String) : OperationStatus :=
  if word = "SUCCESS" then success
  else if word = "FAIL" then fail (message.getD "unknown error")
  else if word = "PENDING" then pending
  else submitted

/-- Whether the operation has come to its end. -/
def isTerminal : OperationStatus → Bool
  | success | fail _ => true
  | submitted | pending => false

/-- The name of a state. -/
def label : OperationStatus → String
  | submitted => "Submitted"
  | pending => "Pending"
  | success => "Success"
  | fail _ => "Fail"

end OperationStatus

end Discovery
