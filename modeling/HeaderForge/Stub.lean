import HeaderForge.Catalog.Basic

/-! Stub headers. The header of a type specialises `object_functions` for it, with one stub for
each unary operation and one for each binary operation with each partner type. Every stub refuses
to compile until it is filled in, and so does the default header for a type without a header. The
text is written by instructions, of which an `unindent` at depth zero does nothing and so takes
nothing from a later `indent`. -/

namespace HeaderForge

namespace Writer

inductive Instruction
  | line (t : Text)
  | blank
  | indent
  | unindent
  deriving DecidableEq, Repr

/-- The text that an instruction writes at a depth. A blank line is never indented. -/
def Instruction.output (depth : Nat) : Instruction → Text
  | line t => List.replicate (4 * depth) ' ' ++ t ++ ['\n']
  | blank => ['\n']
  | indent => []
  | unindent => []

def Instruction.nextDepth (depth : Nat) : Instruction → Nat
  | indent => depth + 1
  | unindent => depth - 1
  | _ => depth

def outputs (depth : Nat) : List Instruction → List Text
  | [] => []
  | i :: rest => i.output depth :: outputs (i.nextDepth depth) rest

def finalDepth (depth : Nat) (is : List Instruction) : Nat :=
  is.foldl Instruction.nextDepth depth

def write (is : List Instruction) : Text := (outputs 0 is).flatten

theorem finalDepth_append (depth : Nat) (is js : List Instruction) :
    finalDepth depth (is ++ js) = finalDepth (finalDepth depth is) js := by
  rw [finalDepth, List.foldl_append]
  rfl

theorem outputs_append (depth : Nat) (is js : List Instruction) :
    outputs depth (is ++ js) = outputs depth is ++ outputs (finalDepth depth is) js := by
  induction is generalizing depth with
  | nil => rfl
  | cons i is ih => simp [outputs, finalDepth, ih]

end Writer

namespace Stub
open Writer (Instruction)

/-- The primary template, which refuses to compile where the header of a type is missing. -/
def defaultHeader : Text :=
  ("#pragma once\n\n#include <clean-core/always_false.hh>\n\ntemplate <class T>\n" ++
    "struct object_functions\n\x7b\n    static_assert(cc::always_false<T>\n" ++
    "    , \"include missing\");\n\x7d;\n").toList

def applied (type : Text) : Text := type ++ "<D, ScalarT>".toList

def stub (signature : Text) (types : List Text) : List Instruction :=
  [.line ("static constexpr auto ".toList ++ signature),
    .line ['{'],
    .indent,
    .line ("static_assert(cc::always_false<".toList ++ [','].intercalate (types.map applied) ++
      ">, \"TODO: not yet implemented\");".toList),
    .unindent,
    .line ['}'],
    .blank]

def parameter (type name : Text) : Text := applied type ++ " const& ".toList ++ name

def unary (operation type : Text) : List Instruction :=
  stub (operation ++ '(' :: parameter type "obj".toList ++ [')']) [type]

def binary (operation first second : Text) : List Instruction :=
  stub
    (operation ++ '(' :: parameter first ['a'] ++ ", ".toList ++ parameter second ['b'] ++ [')'])
    [first, second]

/-- A stub for each operation with each partner, the type itself among them. -/
def binaries (operations : List Text) (type : Text) (partners : List Text) : List Instruction :=
  operations.flatMap fun operation => partners.flatMap fun partner => binary operation type partner

def instructions (type : Text) (c : Catalog) (includePath : Text) : List Instruction :=
  [.line "#pragma once".toList,
    .blank,
    .line ("#include <".toList ++ includePath ++ ['>']),
    .blank,
    .line "template <int D, class ScalarT>".toList,
    .line ("struct object_functions<".toList ++ applied type ++ ['>']),
    .line ['{'],
    .indent] ++
  c.unary.flatMap (unary · type) ++
  binaries c.binarySymmetric type c.partnerTypes ++
  binaries c.binaryAsymmetric type c.partnerTypes ++
  [.unindent, .line "\x7d;".toList]

def header (type : Text) (c : Catalog) (includePath : Text) : Text :=
  Writer.write (instructions type c includePath)

end Stub

end HeaderForge
