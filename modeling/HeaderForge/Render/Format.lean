import HeaderForge.Definition

/-! The forms in which definitions are written out: one JSON array, or a signature on each line. The
JSON has strings as its only scalars and two layouts: compact, which has no blank outside strings,
and indented by two spaces a level. Members keep their order, and an empty array is written without
a line break. -/

namespace HeaderForge

inductive Json
  | text (t : Text)
  | array (items : List Json)
  | object (members : List (Text × Json))

namespace Json

inductive Layout
  | compact
  | indented
  deriving DecidableEq, Repr

def Layout.lineBreak : Layout → Nat → Text
  | compact, _ => []
  | indented, depth => '\n' :: List.replicate (2 * depth) ' '

def Layout.colon : Layout → Text
  | compact => [':']
  | indented => [':', ' ']

def hexByte (n : Nat) : Text := [Nat.digitChar (n / 16 % 16), Nat.digitChar (n % 16)]

/-- Only the quote, the backslash and the control characters below U+0020 are escaped. -/
def escape (c : Char) : Text :=
  match c with
  | '"' => ['\\', '"']
  | '\\' => ['\\', '\\']
  | '\x08' => ['\\', 'b']
  | '\t' => ['\\', 't']
  | '\n' => ['\\', 'n']
  | '\x0c' => ['\\', 'f']
  | '\r' => ['\\', 'r']
  | c => if c.toNat < 0x20 then "\\u00".toList ++ hexByte c.toNat else [c]

def quote (t : Text) : Text := '"' :: t.flatMap escape ++ ['"']

def enclose (layout : Layout) (depth : Nat) (opening closing : Char) : List Text → Text
  | [] => [opening, closing]
  | items@(_ :: _) =>
      opening :: layout.lineBreak (depth + 1) ++
        (',' :: layout.lineBreak (depth + 1)).intercalate items ++
        layout.lineBreak depth ++ [closing]

mutual

def render (layout : Layout) (depth : Nat) : Json → Text
  | text t => quote t
  | array items => enclose layout depth '[' ']' (renderItems layout (depth + 1) items)
  | object members => enclose layout depth '{' '}' (renderMembers layout (depth + 1) members)

def renderItems (layout : Layout) (depth : Nat) : List Json → List Text
  | [] => []
  | item :: items => render layout depth item :: renderItems layout depth items

def renderMembers (layout : Layout) (depth : Nat) : List (Text × Json) → List Text
  | [] => []
  | (key, value) :: members =>
      (quote key ++ layout.colon ++ render layout depth value) ::
        renderMembers layout depth members

end

end Json

def TemplateParameter.toJson (p : TemplateParameter) : Json :=
  .object [
    ("typename".toList, .text p.typeName),
    ("variable_name".toList, .text p.variableName),
    ("default_value".toList, .text p.defaultValue)]

def FunctionParameter.toJson (p : FunctionParameter) : Json :=
  .object [
    ("type_name".toList, .text p.typeName),
    ("parameter_name".toList, .text p.name),
    ("default_value".toList, .text p.defaultValue)]

def Declaration.toJson (d : Declaration) : Json :=
  .object [
    ("modifiers".toList, .array (d.modifiers.map fun m => .text m.spelling)),
    ("name".toList, .text d.name),
    ("parameters".toList, .array (d.parameters.map (·.toJson))),
    ("return_type".toList, .text d.returnType)]

def Definition.toJson (d : Definition) : Json :=
  .object [
    ("template-parameters".toList, .array (d.templateParameters.map (·.toJson))),
    ("function_declaration".toList, d.declaration.toJson),
    ("body".toList, .text d.body)]

inductive Format
  | json (layout : Json.Layout)
  | signatures
  deriving DecidableEq, Repr

namespace Format

def ofName? (name : Text) (pretty : Bool) : Option Format :=
  if name = "json".toList then some (json (if pretty then .indented else .compact))
  else if name = "signatures".toList ∨ name = "sig".toList then some signatures
  else none

def unknownMessage (name : Text) : Text :=
  "unknown format: ".toList ++ name ++ ". Use json or signatures".toList

def render : Format → List Definition → Text
  | json layout, ds => Json.render layout 0 (.array (ds.map (·.toJson))) ++ ['\n']
  | signatures, ds => ds.flatMap fun d => d.display ++ ['\n']

end Format
end HeaderForge
