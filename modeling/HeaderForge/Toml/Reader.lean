import HeaderForge.Text.Basic

/-! Readers take a value from the front of a text and return the rest, or refuse. A reader that
refuses takes nothing, so another can be tried in its place. -/

namespace HeaderForge.Toml

abbrev Reader := StateT Text Option

namespace Reader

def peek : Reader (Option Char) := fun t => some (t.head?, t)

def char (p : Char → Bool) : Reader Char
  | [] => none
  | c :: rest => if p c then some (c, rest) else none

def exactly (t : Text) : Reader Unit := fun s => (Text.stripPrefix? t s).map ((), ·)

def accept (t : Text) : Reader Bool := (exactly t *> pure true) <|> pure false

def run (p : Char → Bool) : Reader Text := fun t => some (t.takeWhile p, t.dropWhile p)

def chars (p : Char → Bool) : (n : Nat) → Reader Text
  | 0 => pure []
  | n + 1 => do return (← char p) :: (← chars p n)

def spelled {α : Type} (r : Reader α) : Reader (Text × α) := fun t =>
  (r t).map fun (a, rest) => ((t.take (t.length - rest.length), a), rest)

def upTo (stop piece : Reader Text) : (limit : Text) → Reader Text
  | [] => failure
  | _ :: limit => stop <|> do return (← piece) ++ (← upTo stop piece limit)

def repeated (step : Reader Unit) : (limit : Text) → Reader Unit
  | [] => pure ()
  | _ :: limit => (do step; repeated step limit) <|> pure ()

/-- A reader that takes at most one step for each character that is left: as each of its steps
takes a character, that is no limit. -/
def bounded {α : Type} (r : (limit : Text) → Reader α) : Reader α := fun t => r t t

def isSpace (c : Char) : Bool := c == ' ' || c == '\t'

def spaces : Reader Unit := do let _ ← run isSpace

def newline : Reader Unit := exactly ['\n'] <|> exactly ['\r', '\n']

def isPrintable (c : Char) : Bool := c == '\t' || (0x20 ≤ c.toNat && c.toNat ≠ 0x7F)

def comment : Reader Unit := do
  exactly ['#']
  let _ ← run isPrintable

def lineEnd : Reader Unit := do
  spaces
  comment <|> pure ()
  match ← peek with
  | none => pure ()
  | some _ => newline

def gap : Reader Unit := bounded go
where
  go : (limit : Text) → Reader Unit
    | [] => pure ()
    | _ :: limit => do
      spaces
      match ← peek with
      | some '#' => do
        comment
        newline
        go limit
      | some '\n' | some '\r' => do
        newline
        go limit
      | _ => pure ()

end Reader
end HeaderForge.Toml
