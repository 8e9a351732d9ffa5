import HeaderForge.Declaration
import HeaderForge.Template

/-! Headers. A definition is a block of lines: a template line, a declaration line, a line that is
just an opening brace, the body, and the first later line that is just a closing brace. Blanks at
the ends of a line do not matter outside the body, and lines outside blocks are passed over. -/

namespace HeaderForge

def declarationMark : Text := "[[nodiscard]] constexpr".toList

def isDeclarationLine (line : Text) : Bool := declarationMark.isPrefixOf (Text.trim line)

def opensBody (line : Text) : Bool := Text.trim line == ['{']

def closesBody (line : Text) : Bool := Text.trim line == ['}']

structure Block where
  template : Text
  body : List Text
  closing : Text
  below : List Text
  deriving DecidableEq, Repr

def Block.cut (number : Nat) : (above : Option Text) → (below : List Text) →
    Except ReadError Block
  | none, _ => .error (.missingTemplateLine number)
  | some _, [] => .error (.missingBodyOpen (number + 1) [])
  | some template, opening :: rest =>
      if opensBody opening then
        match rest.dropWhile (!closesBody ·) with
        | [] => .error (.unterminatedBody number)
        | closing :: below => .ok ⟨template, rest.takeWhile (!closesBody ·), closing, below⟩
      else .error (.missingBodyOpen (number + 1) (Text.trim opening))

theorem Block.length_below_lt {number : Nat} {above : Option Text} {rest : List Text} {b : Block}
    (h : Block.cut number above rest = .ok b) : b.below.length < rest.length := by
  unfold Block.cut at h
  split at h
  · cases h
  · cases h
  · rename_i opening rest
    split at h
    · split at h
      · cases h
      · rename_i closing below hd
        cases h
        have hsub := (List.dropWhile_sublist (!closesBody ·) (l := rest)).length_le
        rw [hd] at hsub
        simp only [List.length_cons] at hsub ⊢
        omega
    · cases h

def Block.read (b : Block) (line : Text) : Except ReadError Definition :=
  match readTemplateParameters b.template with
  | .error e => .error e
  | .ok templateParameters =>
    match readDeclaration (Text.trim line) with
    | .error e => .error e
    | .ok declaration =>
        .ok ⟨templateParameters, declaration, b.body.flatMap (· ++ ['\n'])⟩

def isWanted (names : List Text) (d : Definition) : Bool :=
  names.isEmpty || names.contains d.declaration.name

/-- The definitions in the lines from `number` on, `above` being the line before them. A block is
read in full before its name is looked at, so a fault is found in any block. -/
def readLines (names : List Text) (number : Nat) (above : Option Text) :
    List Text → Except ReadError (List Definition)
  | [] => .ok []
  | line :: rest =>
      if isDeclarationLine line then
        match _h : Block.cut number above rest with
        | .error e => .error e
        | .ok b =>
          match b.read line with
          | .error e => .error e
          | .ok d =>
              (readLines names (number + b.body.length + 3) (some b.closing) b.below).map
                fun ds => if isWanted names d then d :: ds else ds
      else readLines names (number + 1) (some line) rest
termination_by lines => lines.length
decreasing_by
  · have := Block.length_below_lt _h
    simp only [List.length_cons]
    omega
  · simp

def readHeader (text : Text) (names : List Text) : Except ReadError (List Definition) :=
  readLines names 1 none text.lines

end HeaderForge
