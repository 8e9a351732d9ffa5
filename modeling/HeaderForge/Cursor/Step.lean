import HeaderForge.Cursor

/-! Runs of cursor steps. A step that does not succeed leaves the cursor where it was, so a run
goes on after it. -/

namespace HeaderForge.Cursor

inductive Step
  | eat (t : Text)
  | eatWord (t : Text)
  | readType
  | readName
  | readToComma
  deriving DecidableEq, Repr

inductive Answer
  | eaten (passed : Bool)
  | taken (t : Text)
  | nothing
  | failed (e : ReadError)
  deriving DecidableEq, Repr

def perform (c : Cursor) : Step → Answer × Cursor
  | .eat t => (c.eat? t).elim (.eaten false, c) (.eaten true, ·)
  | .eatWord t => (c.eatWord? t).elim (.eaten false, c) (.eaten true, ·)
  | .readType =>
      match c.readType with
      | .ok (t, d) => (.taken t, d)
      | .error e => (.failed e, c)
  | .readName =>
      match c.readName? with
      | some (t, d) => (.taken t, d)
      | none => (.nothing, c)
  | .readToComma => let (t, d) := c.readToComma; (.taken t, d)

def run (c : Cursor) : List Step → List (Answer × Cursor)
  | [] => []
  | s :: steps => c.perform s :: (c.perform s).2.run steps

end HeaderForge.Cursor
