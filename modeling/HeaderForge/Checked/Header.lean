import HeaderForge.Checked.Signature
import HeaderForge.Header

/-! Headers by the places of their lines, with every check. -/

namespace HeaderForge.Checked

def linesBetween? (ls : List Text) (first last : Nat) : Option (List Text) :=
  if first ≤ last ∧ last ≤ ls.length then some ((ls.take last).drop first) else none

/-- The definition of the block whose body begins at place `first`, and the place below the block.
The declaration line is `line`, and stands on line `number`. -/
def readBody (ls : List Text) (number first : Nat) (template line : Text) :
    Option (Except ReadError (Definition × Nat)) := do
  let below ← linesBetween? ls (min first ls.length) ls.length
  match below.findIdx? closesBody with
  | none => return .error (.unterminatedBody number)
  | some passed =>
    let last ← add? first passed
    match ← readTemplateParameters template with
    | .error e => return .error e
    | .ok templateParameters =>
      match ← readDeclaration line with
      | .error e => return .error e
      | .ok declaration =>
          let body ← linesBetween? ls first last
          return .ok (⟨templateParameters, declaration, body.flatMap (· ++ ['\n'])⟩,
            ← add? last 1)

def readBlock (ls : List Text) (i : Nat) (line : Text) :
    Option (Except ReadError (Definition × Nat)) := do
  let number ← add? i 1
  match sub? i 1 with
  | none => return .error (.missingTemplateLine number)
  | some above =>
    let template ← ls[above]?
    let opening := ((ls[number]?).map Text.trim).getD []
    let first ← add? i 2
    if opening = ['\x7b'] then readBody ls number first template line
    else return .error (.missingBodyOpen first opening)

def readLines (names : List Text) (ls : List Text) (i : Nat) :
    Option (Except ReadError (List Definition)) := do
  if i < ls.length then
    let line := Text.trim (← ls[i]?)
    if declarationMark.isPrefixOf line then
      match ← readBlock ls i line with
      | .error e => return .error e
      | .ok (d, below) =>
          let ⟨below, _⟩ ← smaller? (ls.length - ·) i below
          return (← readLines names ls below).map
            fun ds => if isWanted names d then d :: ds else ds
    else
      let ⟨next, _⟩ ← smaller? (ls.length - ·) i (← add? i 1)
      readLines names ls next
  else return .ok []
termination_by ls.length - i

def readHeader (text : Text) (names : List Text) : Option (Except ReadError (List Definition)) :=
  readLines names text.lines 0

end HeaderForge.Checked
