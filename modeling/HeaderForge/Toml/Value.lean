import HeaderForge.Text.Basic

/-! TOML values and how a document puts its tables together. A table remembers how it came about,
because that settles whether a later line may add to it. -/

namespace HeaderForge.Toml

/-- How a table came about: written between braces, under a header of its own, on the way to the
header of another table, or by a dotted key. -/
inductive Origin
  | inline
  | header
  | implied
  | dotted
  deriving DecidableEq, Repr

inductive Value
  | string (t : Text)
  | integer (n : Int)
  | float (spelling : Text)
  | boolean (b : Bool)
  | moment (spelling : Text)
  | array (items : List Value)
  | table (origin : Origin) (members : List (Text × Value))
  | tables (elements : List (List (Text × Value)))

abbrev Members := List (Text × Value)

namespace Members

def put (ms : Members) (key : Text) (v : Value) : Members :=
  if ms.any (·.1 == key) then ms.map fun m => if m.1 == key then (key, v) else m
  else ms ++ [(key, v)]

/-- Adds a value under a dotted key. No key may be set twice, and only tables that dotted keys
made, or that a header passed through, can be reached by one. -/
def insert (value : Value) : (path : List Text) → Members → Option Members
  | [], _ => none
  | [key], ms => if ms.any (·.1 == key) then none else some (ms ++ [(key, value)])
  | key :: next :: path, ms =>
      match ms.lookup key with
      | none => (insert value (next :: path) []).map fun sub => ms.put key (.table .dotted sub)
      | some (.table .dotted sub) =>
          (insert value (next :: path) sub).map fun sub => ms.put key (.table .dotted sub)
      | some (.table .implied sub) =>
          if path.isEmpty then none
          else (insert value (next :: path) sub).map fun sub => ms.put key (.table .implied sub)
      | some (.tables elements) =>
          match elements.getLast? with
          | none => none
          | some sub =>
            if path.isEmpty then none
            else
              (insert value (next :: path) sub).map fun sub =>
                ms.put key (.tables (elements.dropLast ++ [sub]))
      | some _ => none

def insertAll (pairs : List (List Text × Value)) (ms : Members) : Option Members :=
  pairs.foldlM (fun ms pair => insert pair.2 pair.1 ms) ms

/-- Changes what stands at the end of a header's path; tables on the way are made if they are
missing. Tables between braces are closed. -/
def atHeader (change : Option Value → Option Value) :
    (path : List Text) → Members → Option Members
  | [], _ => none
  | [key], ms => (change (ms.lookup key)).map (ms.put key ·)
  | key :: path, ms =>
      match ms.lookup key with
      | none => (atHeader change path []).map fun sub => ms.put key (.table .implied sub)
      | some (.table .inline _) => none
      | some (.table origin sub) =>
          (atHeader change path sub).map fun sub => ms.put key (.table origin sub)
      | some (.tables elements) =>
          match elements.getLast? with
          | none => none
          | some sub =>
              (atHeader change path sub).map fun sub =>
                ms.put key (.tables (elements.dropLast ++ [sub]))
      | some _ => none

def openTable (pairs : List (List Text × Value)) : Option Value → Option Value
  | none => (insertAll pairs []).map (.table .header)
  | some (.table .implied sub) => (insertAll pairs sub).map (.table .header)
  | some _ => none

def openElement (pairs : List (List Text × Value)) : Option Value → Option Value
  | none => (insertAll pairs []).map fun sub => .tables [sub]
  | some (.tables elements) => (insertAll pairs []).map fun sub => .tables (elements ++ [sub])
  | some _ => none

end Members
end HeaderForge.Toml
