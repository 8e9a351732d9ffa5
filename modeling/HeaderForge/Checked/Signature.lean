import HeaderForge.Checked.Cursor
import HeaderForge.Declaration
import HeaderForge.Text.Basic
import HeaderForge.Template

/-! Template lists and declarations by byte offsets, with every check. -/

namespace HeaderForge.Checked

open Text

def readTemplateEntry (entry : Text) : Option (Except ReadError TemplateParameter) :=
  let entry := trim entry
  match words entry with
  | typeName :: _ :: _ => do
      let rest := trim (← slice? entry (utf8Size typeName) (utf8Size entry))
      return .ok {
        typeName
        variableName := trim (rest.takeWhile (· ≠ '='))
        defaultValue := trim ((rest.dropWhile (· ≠ '=')).drop 1)
      }
  | _ => return .error (.malformedTemplateParameter entry)

def readTemplateEntries : List Text → Option (Except ReadError (List TemplateParameter))
  | [] => return .ok []
  | entry :: entries => do
      match ← readTemplateEntry entry with
      | .error e => return .error e
      | .ok p => return (← readTemplateEntries entries).map (p :: ·)

def readTemplateParameters (line : Text) :
    Option (Except ReadError (List TemplateParameter)) :=
  match find? (· = '<') line with
  | none => return .error (.missingTemplateList line)
  | some first => do
    match ← expectClosing line first with
    | .error e => return .error e
    | .ok last =>
        let list ← slice? line (← add? first 1) last
        if trim list = [] then return .ok []
        readTemplateEntries (list.splitOn ',')

def qualify (found : Option Cursor) (taken : Text) (typeName : Text) (c : Cursor) :
    Text × Cursor :=
  match found with
  | some d => (typeName ++ taken, d)
  | none => (typeName, c)

def readQualifiedType (c : Cursor) : Option (Except ReadError (Text × Cursor)) := do
  match ← c.readType with
  | .error e => return .error e
  | .ok (typeName, c) =>
      let (typeName, c) := qualify (← c.eatWord? "const".toList) " const".toList typeName c
      let (typeName, c) := qualify (← c.eat? ['&']) ['&'] typeName c
      return .ok (qualify (← c.eat? "...".toList) "...".toList typeName c)

def readDefault (c : Cursor) : Option (Text × Cursor) := do
  match ← c.eat? ['='] with
  | some c => c.readToComma
  | none => return ([], c)

def readParameter (text : Text) (c : Cursor) :
    Option (Except ReadError (FunctionParameter × Cursor)) := do
  match ← readQualifiedType c with
  | .error e => return .error e
  | .ok (typeName, c) =>
    match ← c.readName? with
    | none => return .error (.missingParameterName typeName text)
    | some (name, c) =>
        let (defaultValue, c) ← readDefault c
        return .ok (⟨typeName, name, defaultValue⟩, (← c.eat? [',']).getD c)

def readParameters (text : Text) (c : Cursor) :
    Option (Except ReadError (List FunctionParameter)) := do
  if (← c.rest?) = [] then return .ok []
  match ← readParameter text c with
  | .error e => return .error e
  | .ok (p, d) =>
      let ⟨d, _⟩ ← smaller? Cursor.left c d
      return (← readParameters text d).map (p :: ·)
termination_by c.left

def readParameterList (text : Text) : Option (Except ReadError (List FunctionParameter)) := do
  readParameters text (← Cursor.ofText? text)

def takeModifier (m : Modifier) (c : Cursor) : Option (List Modifier × Cursor) := do
  match ← c.eat? m.spelling with
  | some d => return ([m], d)
  | none => return ([], c)

def readModifiers (c : Cursor) : Option (List Modifier × Cursor) := do
  let (first, c) ← takeModifier .nodiscard c
  let (second, c) ← takeModifier .constexpr c
  return (first ++ second, c)

def readDeclaration (line : Text) : Option (Except ReadError Declaration) := do
  let (modifiers, c) ← readModifiers (← Cursor.ofText? line)
  let rest ← c.rest?
  match find? (· = '(') rest with
  | none => return .error (.missingOpenParen line)
  | some opening =>
    let words := words (← slice? rest 0 opening)
    match words.getLast? with
    | none => return .error (.missingFunctionName line)
    | some name =>
      let afterOpen ← slice? rest (← add? opening 1) (utf8Size rest)
      match find? (· = ')') afterOpen with
      | none => return .error (.missingCloseParen line)
      | some closing =>
        match ← readParameterList (← slice? afterOpen 0 closing) with
        | .error e => return .error e
        | .ok parameters =>
          let returnType := words.dropLast.flatten
          if returnType = "auto".toList then
            let tail ← slice? afterOpen (← add? closing 1) (utf8Size afterOpen)
            match stripPrefix? "->".toList (trim tail) with
            | none => return .error (.missingTrailingReturn line)
            | some trailing => return .ok ⟨modifiers, name, parameters, trim trailing⟩
          else return .ok ⟨modifiers, name, parameters, returnType⟩

end HeaderForge.Checked
