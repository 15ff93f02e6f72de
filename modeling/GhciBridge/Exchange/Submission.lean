import GhciBridge.Command
import GhciBridge.Fault

/-!
# Submissions and retirements

A command is submitted together with what its answer is wanted for.  It is
retired once: with its answer, or with none if the answer could not be read or
never came.
-/

namespace GhciBridge

/-- What an answer is wanted for: as it is, or as the value of an expression of
a declared type. -/
inductive Purpose where
  | answer
  | value (expression : Text) (typeName : Option Text)
deriving DecidableEq, Repr

structure Submission where
  id : Nat
  command : Command
  purpose : Purpose
deriving DecidableEq, Repr

structure Retirement where
  submission : Submission
  answer : Option Answer

/-- The value that shown output stands for: a binding without a name.  Any other
answer means that the expression has no value. -/
def Answer.value (expression : Text) (typeName : Option Text) :
    Option Answer → Except Fault Binding
  | some (.output text) => .ok ⟨none, typeName, some text⟩
  | _ => .error (.evaluation expression)

namespace Retirement

/-- The retirement of a submission without an answer. -/
def unanswered (submission : Submission) : Retirement :=
  ⟨submission, none⟩

/-- The value that was wanted, if one was. -/
def value? (retirement : Retirement) : Option (Except Fault Binding) :=
  match retirement.submission.purpose with
  | .answer => none
  | .value expression typeName => some (Answer.value expression typeName retirement.answer)

end Retirement
end GhciBridge
