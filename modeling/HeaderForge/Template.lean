import HeaderForge.Bracket
import HeaderForge.Definition
import HeaderForge.Text.Basic

/-! Template lists. The list stands between the first `<` of a line and the `>` that closes it,
and every comma in it separates two entries, also one inside brackets. -/

namespace HeaderForge

/-- An entry is a type, which is its first word, and a name, perhaps with a default behind the
first equals sign. -/
def readTemplateEntry (entry : Text) : Except ReadError TemplateParameter :=
  let entry := Text.trim entry
  match Text.words entry with
  | typeName :: _ :: _ =>
      let rest := Text.trim (entry.drop typeName.length)
      .ok {
        typeName
        variableName := Text.trim (rest.takeWhile (· ≠ '='))
        defaultValue := Text.trim ((rest.dropWhile (· ≠ '=')).drop 1)
      }
  | _ => .error (.malformedTemplateParameter entry)

def readTemplateEntries : List Text → Except ReadError (List TemplateParameter)
  | [] => .ok []
  | entry :: entries =>
      match readTemplateEntry entry with
      | .error e => .error e
      | .ok p => (readTemplateEntries entries).map (p :: ·)

def readTemplateParameters (line : Text) : Except ReadError (List TemplateParameter) :=
  if '<' ∈ line then
    match Enclosed.ofText? line with
    | none => .error (.unbalancedAngle line)
    | some e =>
      if e.inside.trim = [] then .ok [] else readTemplateEntries (e.inside.splitOn ',')
  else .error (.missingTemplateList line)

end HeaderForge
