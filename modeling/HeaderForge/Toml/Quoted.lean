import HeaderForge.Toml.Reader

/-! Strings and keys. Basic strings stand in double quotes and have escapes, literal strings stand
in single quotes and have none; three quotes open a string that may run over lines. -/

namespace HeaderForge.Toml.Reader

def hexValue (digits : Text) : Nat :=
  digits.foldl (fun n c => 16 * n + (if c.isDigit then c.toNat - '0'.toNat
    else 10 + (c.toLower.toNat - 'a'.toNat))) 0

def isHexDigit (c : Char) : Bool :=
  c.isDigit || ('a' ≤ c && c ≤ 'f') || ('A' ≤ c && c ≤ 'F')

def codePoint (digits : Nat) : Reader Text := do
  let n := hexValue (← chars isHexDigit digits)
  if n.isValidChar then return [Char.ofNat n] else failure

def escape : Reader Text := do
  exactly ['\\']
  match ← char fun _ => true with
  | 'b' => return ['\x08']
  | 't' => return ['\t']
  | 'n' => return ['\n']
  | 'f' => return ['\x0c']
  | 'r' => return ['\r']
  | '"' => return ['"']
  | '\\' => return ['\\']
  | 'u' => codePoint 4
  | 'U' => codePoint 8
  | _ => failure

def plain (except : Text) : Reader Text := do
  return [← char fun c => isPrintable c && !except.contains c]

def oneLine (quote : Char) (piece : Reader Text) : Reader Text := do
  exactly [quote]
  bounded (upTo (exactly [quote] *> pure []) piece)

def basic : Reader Text := oneLine '"' (escape <|> plain ['"', '\\'])

def literal : Reader Text := oneLine '\'' (plain ['\''])

/-- A backslash at the end of a line hides the line end and all blanks and line ends after it. -/
def hiddenBreak : Reader Text := do
  exactly ['\\']
  spaces
  newline
  bounded (repeated (newline <|> (char isSpace *> pure ())))
  return []

def closing (quote : Char) : Reader Text :=
  (exactly (List.replicate 5 quote) *> pure [quote, quote]) <|>
  (exactly (List.replicate 4 quote) *> pure [quote]) <|>
  (exactly (List.replicate 3 quote) *> pure [])

/-- A string over lines. A line end right after the opening quotes does not count, and every
other line end is a line feed. -/
def manyLines (quote : Char) (piece : Reader Text) : Reader Text := do
  exactly (List.replicate 3 quote)
  newline <|> pure ()
  bounded (upTo (closing quote) ((newline *> pure ['\n']) <|> piece))

def string : Reader Text :=
  manyLines '"' (hiddenBreak <|> escape <|> plain ['\\']) <|> basic <|>
  manyLines '\'' (plain []) <|> literal

def isBareKeyChar (c : Char) : Bool := c.isAlphanum || c == '-' || c == '_'

def key : Reader Text := basic <|> literal <|> do
  match ← run isBareKeyChar with
  | [] => failure
  | k => return k

def dottedKey : Reader (List Text) := do
  let keys ← bounded go
  if keys.length < 80 then return keys else failure
where
  go : (limit : Text) → Reader (List Text)
    | [] => failure
    | _ :: limit => do
      spaces
      let k ← key
      spaces
      if ← accept ['.'] then return k :: (← go limit) else return [k]

end HeaderForge.Toml.Reader
