import HeaderForge.FileTree
import HeaderForge.Glob.Pattern

/-! The paths that fit a pattern. Components without a wildcard are followed as they are written;
the others are compared with the names in a directory. Paths under the working directory are given
without a `.` in front. -/

namespace HeaderForge.Glob

inductive Part
  | plain (name : Text)
  | wild (tokens : List Token)
  | directories
  deriving DecidableEq, Repr

def Part.ofTokens (ks : List Token) : Part :=
  match spelling? ks with
  | some name => .plain name
  | none => if ks = [.anyDirectories] then .directories else .wild ks

def Part.tokens : Part → List Token
  | plain name => name.map .char
  | wild ks => ks
  | directories => [.anyDirectories]

def collapse : List Part → List Part
  | .directories :: .directories :: parts => collapse (.directories :: parts)
  | p :: parts => p :: collapse parts
  | [] => []

structure Pattern where
  start : Path
  parts : List Part
  wantsDirectory : Bool
  deriving DecidableEq, Repr

def pieces (t : Text) : List Text :=
  match t.splitOn '/' with
  | [] => []
  | ps => if ps.getLast? = some [] then ps.dropLast else ps

def Pattern.ofText (t : Text) : Except PatternFault Pattern := do
  let _ ← tokens t
  let absolute := t.head? == some '/'
  let rest := if absolute then t.drop 1 else t
  let parts ← (if rest.isEmpty then [[]] else pieces rest).mapM fun piece =>
    (tokens piece).map Part.ofTokens
  return ⟨if absolute then .ofString "/" else .ofString ".", collapse parts,
    t.getLast? == some '/'⟩

def enter (dir : Path) (name : Text) : Path :=
  if dir.same (.ofString ".") then ⟨name⟩ else dir.join ⟨name⟩

def pathsBelow (t : FileTree) (dir : Path) (deep : Bool) : List Path :=
  match t.locate dir with
  | .error _ => []
  | .ok l =>
    if deep then
      (t.below l).map fun m =>
        match m.drop l.length with
        | [] => dir
        | name :: names => names.foldl (fun p n => p.join ⟨n⟩) (enter dir name)
    else ((t.children l).mergeSort Text.le).map (enter dir ·)

def nameFits (part : Part) (p : Path) : Bool := p.fileName?.any (fits part.tokens)

/-- The entries `..` and `.` of a directory, which a wildcard fits only behind a written dot. -/
def dotEntries (dir : Path) (ks : List Token) : List Path :=
  if ks.head? = some (.char '.') then
    (["..".toList, ".".toList].filter (fits ks)).map fun n => dir.join ⟨n⟩
  else []

def search (t : FileTree) (wantsDirectory : Bool) : List Part → Path → List Path
  | [], p => if wantsDirectory && !t.isDirectory p then [] else [p]
  | .plain name :: parts, dir =>
      let p := enter dir name
      let known :=
        if name = ['.'] ∨ name = ['.', '.'] then t.isDirectory dir else t.contains p
      if known then search t wantsDirectory parts p else []
  | .wild ks :: parts, dir =>
      if t.isDirectory dir then
        (dotEntries dir ks ++ (pathsBelow t dir false).filter (nameFits (.wild ks))).flatMap
          (search t wantsDirectory parts)
      else []
  | [.directories], dir =>
      if t.isDirectory dir then (pathsBelow t dir true).filter t.isDirectory else []
  | .directories :: part :: parts, dir =>
      if t.isDirectory dir then
        ((pathsBelow t dir true).filter (nameFits part)).flatMap (search t wantsDirectory parts)
      else []

def Pattern.expand (t : FileTree) (p : Pattern) : List Path :=
  search t p.wantsDirectory p.parts p.start

end HeaderForge.Glob
