import HeaderForge.Toml.Scalar

/-! Documents: lines that set a key or open a table. Arrays and tables nest up to a fixed depth,
which bounds the recursion of the readers. -/

namespace HeaderForge.Toml

inductive Fault
  | malformed (line : Nat)
  | conflict (path : List Text)
  | wrongType (key : Text)
  | unknownKey (key : Text)
  | missingKey (key : Text)
  deriving DecidableEq, Repr

def Fault.message : Fault → Text
  | malformed line => "line ".toList ++ Text.decimal line ++ " cannot be read".toList
  | conflict path => "duplicate key: ".toList ++ ['.'].intercalate path
  | wrongType key => "wrong type: ".toList ++ key
  | unknownKey key => "unknown key: ".toList ++ key
  | missingKey key => "missing key: ".toList ++ key

namespace Reader

def items (item : Reader Value) : (limit : Text) → Reader (List Value)
  | [] => failure
  | _ :: limit => do
    gap
    if ← accept [']'] then return []
    let v ← item
    gap
    if ← accept [','] then return v :: (← items item limit)
    exactly [']']
    return [v]

def pair (value : Reader Value) : Reader (List Text × Value) := do
  let path ← dottedKey
  exactly ['=']
  spaces
  return (path, ← value)

def members (value : Reader Value) : (limit : Text) → Reader (List (List Text × Value))
  | [] => failure
  | _ :: limit => do
    let p ← pair value
    spaces
    if ← accept [','] then return p :: (← members value limit)
    exactly ['}']
    return [p]

def inlineTable (value : Reader Value) : Reader Value := do
  spaces
  if ← accept ['}'] then return .table .inline []
  match Members.insertAll (← bounded (members value)) [] with
  | some ms => return .table .inline ms
  | none => failure

def value : (depth : Nat) → Reader Value
  | 0 => scalar
  | depth + 1 => do
    if ← accept ['['] then return .array (← bounded (items (value depth)))
    if ← accept ['{'] then inlineTable (value depth)
    else scalar

def nestingLimit : Nat := 79

end Reader

inductive Line
  | pair (path : List Text) (value : Value)
  | table (path : List Text)
  | element (path : List Text)
  | blank

namespace Reader

def header : Reader Line := do
  if ← accept "[[".toList then
    let path ← dottedKey
    exactly "]]".toList
    return .element path
  else
    exactly ['[']
    let path ← dottedKey
    exactly [']']
    return .table path

def line : Reader Line := do
  spaces
  let l ← match ← peek with
    | none | some '#' | some '\n' | some '\r' => pure .blank
    | some '[' => header
    | some _ => do
      let (path, v) ← pair (value nestingLimit)
      pure (.pair path v)
  lineEnd
  return l

end Reader

/-- The lines of a text, or the part that begins with the first bad line. -/
def readLines (t : Text) : Except Text (List Line) :=
  match t with
  | [] => .ok []
  | c :: cs =>
    match Reader.line (c :: cs) with
    | none => .error (c :: cs)
    | some (l, rest) =>
      if rest.length < cs.length + 1 then (readLines rest).map (l :: ·)
      else .error (c :: cs)
termination_by t.length

structure Section where
  header : Line
  pairs : List (List Text × Value)

def sections : List Line → List (List Text × Value) × List Section
  | [] => ([], [])
  | .pair path v :: rest => ((path, v) :: (sections rest).1, (sections rest).2)
  | .blank :: rest => sections rest
  | l :: rest => ([], ⟨l, (sections rest).1⟩ :: (sections rest).2)

def Section.path (s : Section) : List Text :=
  match s.header with
  | .table path | .element path | .pair path _ => path
  | .blank => []

def Section.add (s : Section) (ms : Members) : Option Members :=
  match s.header with
  | .element path => ms.atHeader (Members.openElement s.pairs) path
  | _ => ms.atHeader (Members.openTable s.pairs) s.path

def addSections : List Section → Members → Except Fault Members
  | [], ms => .ok ms
  | s :: rest, ms =>
    match s.add ms with
    | some ms => addSections rest ms
    | none => .error (.conflict s.path)

def readDocument (t : Text) : Except Fault Members :=
  let t := (Text.stripPrefix? ['\uFEFF'] t).getD t
  match readLines t with
  | .error rest => .error (.malformed (1 + t.count '\n' - rest.count '\n'))
  | .ok ls =>
    let (top, rest) := sections ls
    match Members.insertAll top [] with
    | none => .error (.conflict [])
    | some ms => addSections rest ms

end HeaderForge.Toml
