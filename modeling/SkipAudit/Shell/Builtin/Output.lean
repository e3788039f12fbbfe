/-
Builtins that write text and ask questions.
-/
import SkipAudit.Format.Printf
import SkipAudit.Shell.Builtin.Basic
import SkipAudit.Shell.Condition

namespace SkipAudit.Shell.Builtin

open Run

/-- Write the arguments, with their escapes carried out. -/
def echo : Builtin := fun _ _ _ args => do
  let (newline, args) := match args with
    | ['-', 'n'] :: args => (false, args)
    | args => (true, args)
  let (t, ending?) := Escape.expand .shell (List.intersperse [' '] args).flatten
  print (if newline && ending?.isNone then t ++ ['\n'] else t)
  return 0

/-- The wording of a warning of a format. -/
def warningText : Format.Warning → Octets
  | .notNumeric a => a ++ text ": expected numeric value"
  | .notWhollyNumeric a => a ++ text ": not completely converted"
  | .outOfRange a => a ++ text ": Numerical result out of range"
  | .moreThanCharacter _ => []

/-- Write the arguments in a format. -/
def printf : Builtin := fun _ _ _ args => do
  match ← plain args with
  | [] => fail (text "usage: printf format [arg ...]")
  | format :: args =>
      let p := Format.print .shell format args
      p.warnings.forM fun w => complain (warningText w)
      match p.fault? with
      | none =>
          print p.output
          return if p.warnings.isEmpty then 0 else 1
      | some fault => do
          complain (match fault with
            | .badDirective t => t ++ text ": invalid directive"
            | _ => text "missing format character")
          print p.output
          setStatus failureStatus
          throw .fails

/-- Answer a condition. -/
def test : Builtin := fun _ _ name args => do
  let args ← if name = ['['] then
      if args.getLast? = some [']'] then pure args.dropLast else fail (text "missing ]")
    else pure args
  match Condition.answer (← ask .look) args with
  | .ok b => return if b then 0 else 1
  | .error message => fail message

/-- Do nothing, with some status. -/
def nothing (status : Nat) : Builtin := fun _ _ _ _ => return status

end SkipAudit.Shell.Builtin
