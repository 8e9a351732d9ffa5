import HeaderForge.Text.Basic
import HeaderForge.Render.Format

/-! JSON read back: strings with all their escapes, arrays and objects, with blanks wherever the
format allows them. A text is refused unless all of it is one value. Definitions are taken from
the members of an object by their keys. -/

namespace HeaderForge.Json

def isSpace (c : Char) : Bool := c == ' ' || c == '\t' || c == '\n' || c == '\r'

def skipSpaces (t : Text) : Text := t.dropWhile isSpace

def hexDigit? (c : Char) : Option Nat :=
  if c.isDigit then some (c.toNat - '0'.toNat)
  else if 'a' ≤ c ∧ c ≤ 'f' then some (c.toNat - 'a'.toNat + 10)
  else if 'A' ≤ c ∧ c ≤ 'F' then some (c.toNat - 'A'.toNat + 10)
  else none

def codeUnit? : Text → Option Nat
  | [a, b, c, d] => do
      return 4096 * (← hexDigit? a) + 256 * (← hexDigit? b) + 16 * (← hexDigit? c) + (← hexDigit? d)
  | _ => none

def surrogatePair? (high low : Nat) : Option Char :=
  if 0xD800 ≤ high ∧ high < 0xDC00 ∧ 0xDC00 ≤ low ∧ low < 0xE000 then
    some (Char.ofNat (0x10000 + 0x400 * (high - 0xD800) + (low - 0xDC00)))
  else none

def shortEscape? : Char → Option Char
  | '"' => some '"'
  | '\\' => some '\\'
  | '/' => some '/'
  | 'b' => some '\x08'
  | 'f' => some '\x0c'
  | 'n' => some '\n'
  | 'r' => some '\r'
  | 't' => some '\t'
  | _ => none

def isPlain (c : Char) : Bool := 0x20 ≤ c.toNat && c ≠ '"' && c ≠ '\\'

def readCodeUnit (t : Text) : Option (Nat × Text) :=
  match Text.stripPrefix? "\\u".toList t with
  | some rest => (codeUnit? (rest.take 4)).map (·, rest.drop 4)
  | none => none

/-- One character of a string, written plainly, by one of the two kinds of escape, or by the escapes
of two surrogates. -/
def readCharacter (t : Text) : Option (Char × Text) :=
  match readCodeUnit t with
  | some (n, rest) =>
      if n.isValidChar then some (Char.ofNat n, rest)
      else do
        let (low, rest) ← readCodeUnit rest
        return (← surrogatePair? n low, rest)
  | none =>
    match t with
    | '\\' :: e :: rest => (shortEscape? e).map (·, rest)
    | c :: rest => if isPlain c then some (c, rest) else none
    | [] => none

def readCharacters (t : Text) : Option (Text × Text) :=
  match t with
  | '"' :: rest => some ([], rest)
  | t => do
      let (c, rest) ← readCharacter t
      let ⟨rest, _⟩ ← smaller? List.length t rest
      let (s, rest) ← readCharacters rest
      return (c :: s, rest)
termination_by t.length

def readKey (t : Text) : Option (Text × Text) :=
  match skipSpaces t with
  | '"' :: rest => do
      let (key, rest) ← readCharacters rest
      match skipSpaces rest with
      | ':' :: rest => some (key, rest)
      | _ => none
  | _ => none

mutual

def readValue (t : Text) : Option (Json × Text) :=
  match skipSpaces t with
  | '"' :: rest => do
      let (s, rest) ← readCharacters rest
      return (text s, skipSpaces rest)
  | '[' :: rest =>
      match skipSpaces rest with
      | ']' :: rest => some (array [], skipSpaces rest)
      | _ => do
          let ⟨rest, _⟩ ← smaller? List.length t rest
          let (items, rest) ← readItems rest
          return (array items, skipSpaces rest)
  | '{' :: rest =>
      match skipSpaces rest with
      | '}' :: rest => some (object [], skipSpaces rest)
      | _ => do
          let ⟨rest, _⟩ ← smaller? List.length t rest
          let (members, rest) ← readMembers rest
          return (object members, skipSpaces rest)
  | _ => none
termination_by (t.length, 0)

def readItems (t : Text) : Option (List Json × Text) := do
  let (item, rest) ← readValue t
  match rest with
  | ']' :: rest => return ([item], rest)
  | ',' :: rest => do
      let ⟨rest, _⟩ ← smaller? List.length t rest
      let (items, rest) ← readItems rest
      return (item :: items, rest)
  | _ => none
termination_by (t.length, 1)

def readMembers (t : Text) : Option (List (Text × Json) × Text) := do
  let (key, rest) ← readKey t
  let ⟨rest, _⟩ ← smaller? List.length t rest
  let (value, rest) ← readValue rest
  match rest with
  | '}' :: rest => return ([(key, value)], rest)
  | ',' :: rest => do
      let ⟨rest, _⟩ ← smaller? List.length t rest
      let (members, rest) ← readMembers rest
      return ((key, value) :: members, rest)
  | _ => none
termination_by (t.length, 1)

end

def decode? (t : Text) : Option Json :=
  match readValue t with
  | some (v, []) => some v
  | _ => none

def text? : Json → Option Text
  | text t => some t
  | _ => none

def items? : Json → Option (List Json)
  | array items => some items
  | _ => none

def member? {α : Type} (key : Text) (read : Json → Option α) : Json → Option α
  | object members => (members.lookup key).bind read
  | _ => none

def list? {α : Type} (read : Json → Option α) (v : Json) : Option (List α) :=
  v.items?.bind fun items => items.mapM read

end HeaderForge.Json

namespace HeaderForge

def TemplateParameter.ofJson? (v : Json) : Option TemplateParameter := do
  return {
    typeName := ← v.member? "typename".toList Json.text?
    variableName := ← v.member? "variable_name".toList Json.text?
    defaultValue := ← v.member? "default_value".toList Json.text? }

def FunctionParameter.ofJson? (v : Json) : Option FunctionParameter := do
  return {
    typeName := ← v.member? "type_name".toList Json.text?
    name := ← v.member? "parameter_name".toList Json.text?
    defaultValue := ← v.member? "default_value".toList Json.text? }

def Modifier.ofJson? (v : Json) : Option Modifier := do
  let spelling ← v.text?
  [nodiscard, constexpr].find? (·.spelling = spelling)

def Declaration.ofJson? (v : Json) : Option Declaration := do
  return {
    modifiers := ← v.member? "modifiers".toList (Json.list? Modifier.ofJson?)
    name := ← v.member? "name".toList Json.text?
    parameters := ← v.member? "parameters".toList (Json.list? FunctionParameter.ofJson?)
    returnType := ← v.member? "return_type".toList Json.text? }

def Definition.ofJson? (v : Json) : Option Definition := do
  return {
    templateParameters :=
      ← v.member? "template-parameters".toList (Json.list? TemplateParameter.ofJson?)
    declaration := ← v.member? "function_declaration".toList Declaration.ofJson?
    body := ← v.member? "body".toList Json.text? }

def Definition.decode? (t : Text) : Option (List Definition) :=
  (Json.decode? t).bind (Json.list? Definition.ofJson?)

end HeaderForge
