import HeaderForge.ReadError

/-! Matching brackets. The partner of an opener is the first closer of its kind at which all
openers of that kind after it are closed; other kinds, quotes and comments do not count. The
search is the same over bytes, where a place is an offset, and over characters, where it cuts a
text in two. Nesting is counted for each of four kinds on its own, and a comma separates where
every count is zero. -/

namespace HeaderForge

/-- How many items stand before the partner of an opener, `depth` further openers being open. -/
def closingIndex {α : Type} [DecidableEq α] (opener closer : α) : Nat → List α → Option Nat
  | _, [] => none
  | depth, x :: rest =>
      if x = opener then (closingIndex opener closer (depth + 1) rest).map (· + 1)
      else if x = closer then
        match depth with
        | 0 => some 0
        | depth + 1 => (closingIndex opener closer depth rest).map (· + 1)
      else (closingIndex opener closer depth rest).map (· + 1)

def closerOf (opener : UInt8) : Option UInt8 :=
  if opener = 0x7B then some 0x7D
  else if opener = 0x28 then some 0x29
  else if opener = 0x3C then some 0x3E
  else none

def indexOfClosing (text : Text) (start : Nat) : Except ReadError (Option Nat) :=
  let bytes := text.utf8
  match bytes[start]? with
  | none => .error (.invalidBracket start text)
  | some opener =>
    match closerOf opener with
    | none => .error (.invalidBracket start text)
    | some closer =>
      .ok ((closingIndex opener closer 0 (bytes.drop (start + 1))).map (start + 1 + ·))

structure Enclosed where
  before : Text
  inside : Text
  after : Text
  deriving DecidableEq, Repr

namespace Enclosed

def text (e : Enclosed) : Text := e.before ++ '<' :: (e.inside ++ '>' :: e.after)

def ofText? (t : Text) : Option Enclosed :=
  match t.dropWhile (· ≠ '<') with
  | [] => none
  | _ :: rest =>
    (closingIndex '<' '>' 0 rest).map fun n =>
      ⟨t.takeWhile (· ≠ '<'), rest.take n, rest.drop (n + 1)⟩

end Enclosed

def ReadError.unbalancedAngle (t : Text) : ReadError :=
  .unbalancedBracket '<' (Text.utf8Size (t.takeWhile (· ≠ '<'))) t

/-- The nesting of the four bracket pairs, counted separately. A closer with no opener before it
takes its count below zero. -/
structure Nesting where
  curly : Int
  square : Int
  round : Int
  angle : Int
  deriving DecidableEq, Repr

namespace Nesting

def top : Nesting := ⟨0, 0, 0, 0⟩

def step (n : Nesting) (c : Char) : Nesting :=
  match c with
  | '{' => { n with curly := n.curly + 1 }
  | '}' => { n with curly := n.curly - 1 }
  | '[' => { n with square := n.square + 1 }
  | ']' => { n with square := n.square - 1 }
  | '(' => { n with round := n.round + 1 }
  | ')' => { n with round := n.round - 1 }
  | '<' => { n with angle := n.angle + 1 }
  | '>' => { n with angle := n.angle - 1 }
  | _ => n

def after (n : Nesting) (t : Text) : Nesting := t.foldl step n

/-- The part of a text before the first comma at which all four counts are zero. -/
def upToComma : Nesting → Text → Text
  | _, [] => []
  | n, c :: rest => if c = ',' ∧ n = top then [] else c :: upToComma (n.step c) rest

theorem upToComma_prefix (n : Nesting) (t : Text) : upToComma n t <+: t := by
  induction t generalizing n with
  | nil => exact List.prefix_rfl
  | cons c rest ih =>
    unfold upToComma
    split
    · exact List.nil_prefix
    · exact List.prefix_cons_inj c |>.2 (ih _)

end Nesting

end HeaderForge
