import HeaderForge.Text.Basic

/-! Paths are kept as they were given. Their components are what they name: repeated slashes, a
slash at the end and a `.` after the front name nothing, `..` stays. Paths are compared by
components, so that `d//a.h`, `d/./a.h` and `d/a.h` are one path, and `./a.h` is another. -/

namespace HeaderForge

structure Path where
  text : Text
  deriving DecidableEq, Repr

/-- A step of a path. A `.` is one only at the front of a relative path. -/
inductive Component
  | root
  | here
  | up
  | name (n : Text)
  deriving DecidableEq, Repr

namespace Component

def ofSegment (s : Text) : Component :=
  if s = "..".toList then up else name s

def lt : Component → Component → Bool
  | root, root => false
  | root, _ => true
  | here, up => true
  | here, name _ => true
  | up, name _ => true
  | name m, name n => Text.lt m n
  | _, _ => false

end Component

namespace Path

def ofString (s : String) : Path := ⟨s.toList⟩

def isAbsolute (p : Path) : Bool := p.text.head? == some '/'

def isIdle (piece : Text) : Bool := piece.isEmpty || piece == ['.']

def segments (p : Path) : List Text := (p.text.splitOn '/').filter (!·.isEmpty)

def components (p : Path) : List Component :=
  let steps := fun pieces : List Text => (pieces.filter (!isIdle ·)).map Component.ofSegment
  if p.isAbsolute then .root :: steps p.segments
  else
    match p.segments with
    | ['.'] :: rest => .here :: steps rest
    | pieces => steps pieces

def le (p q : Path) : Bool := !q.components.lex p.components Component.lt

def same (p q : Path) : Bool := p.components == q.components

def join (p q : Path) : Path :=
  if q.isAbsolute then q
  else if p.text.isEmpty || p.text.getLast? == some '/' then ⟨p.text ++ q.text⟩
  else ⟨p.text ++ '/' :: q.text⟩

def trimIdle (pieces : List Text) : List Text := (pieces.reverse.dropWhile isIdle).reverse

def front (p : Path) : Text :=
  if p.isAbsolute then ['/']
  else if (p.text.splitOn '/').head? == some ['.'] then ['.']
  else []

/-- The path without its last component; the root and the empty path have none to drop. -/
def parent? (p : Path) : Option Path :=
  let front := p.front
  match trimIdle ((p.text.drop front.length).splitOn '/') with
  | [] => if front == ['.'] then some ⟨[]⟩ else none
  | pieces@(_ :: _) => some ⟨front ++ ['/'].intercalate (trimIdle pieces.dropLast)⟩

def ancestors (p : Path) : List Path :=
  match p.parent? with
  | none => [p]
  | some q => p :: if q.text.length < p.text.length then ancestors q else []
termination_by p.text.length

def fileName? (p : Path) : Option Text :=
  match p.components.getLast? with
  | some (.name n) => some n
  | _ => none

def extension? (p : Path) : Option Text :=
  p.fileName?.bind fun n =>
    match n.splitOn '.' with
    | [] | [_] | [[], _] => none
    | pieces => pieces.getLast?

end Path
end HeaderForge
