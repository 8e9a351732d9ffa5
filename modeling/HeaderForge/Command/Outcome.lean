import HeaderForge.Command.Arguments
import HeaderForge.Files

/-! What a command ends with. A failure is told from the outside in: first what was being done,
then its causes, numbered if there are several. -/

namespace HeaderForge.Command

inductive Outcome
  | success (output : Text)
  | failure (message : Text) (causes : List Text)
  | usage
  | help
  deriving DecidableEq, Repr

namespace Outcome

def exitCode : Outcome → Nat
  | success _ => 0
  | failure _ _ => 1
  | usage => 2
  | help => 0

def output : Outcome → Text
  | success t => t
  | _ => []

def ofRefusal : Refusal → Outcome
  | .usage => usage
  | .help => help

def within (doing : Text) (f : Failure) : Outcome := failure doing (f.message :: f.causes)

def ofFailure (f : Failure) : Outcome := failure f.message f.causes

def indentCause (mark : Text) (cause : Text) : Text :=
  mark ++ ('\n' :: List.replicate mark.length ' ').intercalate cause.lines

def causeNumber (n : Nat) : Text :=
  let digits := Text.decimal n
  List.replicate (5 - digits.length) ' ' ++ digits ++ ": ".toList

def reportCauses : List Text → Text
  | [] => []
  | [cause] => "\n\nCaused by:\n".toList ++ indentCause "    ".toList cause
  | causes =>
      "\n\nCaused by:\n".toList ++
        ['\n'].intercalate (causes.mapIdx fun n cause => indentCause (causeNumber n) cause)

def report : Outcome → Text
  | failure message causes =>
      "Error: ".toList ++ message ++ reportCauses causes ++ ['\n']
  | _ => []

end Outcome
end HeaderForge.Command
