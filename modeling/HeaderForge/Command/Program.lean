import HeaderForge.Command.Extract
import HeaderForge.Command.Generate

/-! The two programs by name. -/

namespace HeaderForge.Command

inductive Program
  | extract
  | generate
  deriving DecidableEq, Repr

namespace Program

def name : Program → Text
  | extract => "function-parser".toList
  | generate => "object-function-generator".toList

def ofName? (t : Text) : Option Program := [extract, generate].find? (·.name == t)

def run (p : Program) (args : List Text) (t : FileTree) (input : ByteArray) :
    FileTree × Outcome :=
  match p with
  | extract => (t, Extract.run args t input)
  | generate => Generate.run args t

end Program
end HeaderForge.Command
