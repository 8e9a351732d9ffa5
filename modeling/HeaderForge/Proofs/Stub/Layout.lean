import HeaderForge.Catalog.Builtin
import HeaderForge.Plan
import HeaderForge.ReadError
import HeaderForge.Proofs.Text.Line
import Mathlib.Data.List.Basic

/-! The layout of a plan. Written by indented instructions or not, a header is its lines one after
another: a fixed opening, five lines for each stub, and a closing line. Each stub leaves the depth
as it found it, so the lines of a stub are the same wherever it stands. -/

namespace HeaderForge

open Text

namespace Writer

variable {depth : Nat} {is js : List Instruction} {ls ms : List Text}

/-- Instructions that write whole lines and end at the depth at which they begin. -/
structure Prints (depth : Nat) (is : List Instruction) (ls : List Text) : Prop where
  restores : finalDepth depth is = depth
  output : (outputs depth is).flatten = ended ls

theorem Prints.append (h : Prints depth is ls) (k : Prints depth js ms) :
    Prints depth (is ++ js) (ls ++ ms) := by
  constructor
  · rw [finalDepth_append, h.restores, k.restores]
  · rw [outputs_append, h.restores, List.flatten_append, h.output, k.output, ended, ended, ended,
      List.flatMap_append]

theorem Prints.line (depth : Nat) (t : Text) :
    Prints depth [.line t] [List.replicate (4 * depth) ' ' ++ t] := by
  refine ⟨rfl, ?_⟩
  simp [outputs, Instruction.output, ended]

theorem Prints.blank (depth : Nat) : Prints depth [.blank] [[]] := ⟨rfl, rfl⟩

theorem Prints.indented (h : Prints (depth + 1) is ls) :
    Prints depth ([.indent] ++ is ++ [.unindent]) ls := by
  have restores := h.restores
  constructor
  · rw [finalDepth_append, finalDepth_append]
    change (finalDepth (depth + 1) is) - 1 = depth
    rw [restores, Nat.add_sub_cancel]
  · rw [outputs_append, outputs_append, List.flatten_append, List.flatten_append]
    change [] ++ (outputs (depth + 1) is).flatten ++ [] = ended ls
    rw [List.append_nil, List.nil_append, h.output]

theorem Prints.flatMap {α : Type} {f : α → List Instruction} {g : α → List Text}
    (h : ∀ a, Prints depth (f a) (g a)) (as : List α) :
    Prints depth (as.flatMap f) (as.flatMap g) := by
  induction as with
  | nil => exact ⟨rfl, rfl⟩
  | cons a as ih =>
    rw [List.flatMap_cons, List.flatMap_cons]
    exact (h a).append ih

end Writer

namespace Stub

open Writer (Instruction Prints outputs finalDepth)

def unarySignature (operation type : Text) : Text :=
  operation ++ "(".toList ++ type ++ "<D, ScalarT> const& obj)".toList

def binarySignature (operation first second : Text) : Text :=
  operation ++ "(".toList ++ first ++ "<D, ScalarT> const& a, ".toList ++ second ++
    "<D, ScalarT> const& b)".toList

def declarationLine (signature : Text) : Text := "    static constexpr auto ".toList ++ signature

def stubLines (signature types : Text) : List Text :=
  [declarationLine signature,
    "    \x7b".toList,
    "        static_assert(cc::always_false<".toList ++ types ++
      ">, \"TODO: not yet implemented\");".toList,
    "    \x7d".toList,
    []]

def unaryLines (operation type : Text) : List Text :=
  stubLines (unarySignature operation type) (type ++ "<D, ScalarT>".toList)

def binaryLines (operation first second : Text) : List Text :=
  stubLines (binarySignature operation first second)
    (first ++ "<D, ScalarT>,".toList ++ second ++ "<D, ScalarT>".toList)

def binariesLines (operations : List Text) (type : Text) (c : Catalog) : List Text :=
  operations.flatMap fun operation =>
    (c.common ++ c.advanced).flatMap fun partner => binaryLines operation type partner

def openingLines (type includePath : Text) : List Text :=
  ["#pragma once".toList,
    [],
    "#include <".toList ++ includePath ++ ">".toList,
    [],
    "template <int D, class ScalarT>".toList,
    "struct object_functions<".toList ++ type ++ "<D, ScalarT>>".toList,
    "\x7b".toList]

/-- The header of a type, line by line. -/
def headerLines (type : Text) (c : Catalog) (includePath : Text) : List Text :=
  openingLines type includePath ++
  (c.unary.flatMap (fun operation => unaryLines operation type) ++
    binariesLines c.binarySymmetric type c ++
    binariesLines c.binaryAsymmetric type c) ++
  ["\x7d;".toList]

variable {type operation partner includePath : Text} {c : Catalog}

theorem prints_stub (signature : Text) (types : List Text) :
    Prints 1 (stub signature types)
      (stubLines signature ([','].intercalate (types.map applied))) := by
  have declared := Prints.line 1 ("static constexpr auto ".toList ++ signature)
  have asserted := Prints.line 2 ("static_assert(cc::always_false<".toList ++
    [','].intercalate (types.map applied) ++ ">, \"TODO: not yet implemented\");".toList)
  exact declared.append <| (Prints.line 1 ['\x7b']).append <| asserted.indented.append <|
    (Prints.line 1 ['\x7d']).append <| Prints.blank 1

theorem prints_unary (operation type : Text) :
    Prints 1 (unary operation type) (unaryLines operation type) := by
  have signature : operation ++ '(' :: parameter type "obj".toList ++ [')'] =
      unarySignature operation type := by
    simp [parameter, applied, unarySignature]
  have types : [','].intercalate ([type].map applied) = type ++ "<D, ScalarT>".toList := by
    simp [applied]
  rw [unary, unaryLines, signature, ← types]
  exact prints_stub _ _

theorem prints_binary (operation first second : Text) :
    Prints 1 (binary operation first second) (binaryLines operation first second) := by
  have signature : operation ++ '(' :: parameter first ['a'] ++ ", ".toList ++
      parameter second ['b'] ++ [')'] = binarySignature operation first second := by
    simp [parameter, applied, binarySignature]
  have types : [','].intercalate ([first, second].map applied) =
      first ++ "<D, ScalarT>,".toList ++ second ++ "<D, ScalarT>".toList := by
    simp [applied]
  rw [binary, binaryLines, signature, ← types]
  exact prints_stub _ _

theorem prints_binaries (operations : List Text) (type : Text) (c : Catalog) :
    Prints 1 (binaries operations type c.partnerTypes) (binariesLines operations type c) :=
  .flatMap (fun operation => .flatMap (prints_binary operation type) _) _

theorem prints_opening (type includePath : Text) :
    Prints 0
      [.line "#pragma once".toList, .blank, .line ("#include <".toList ++ includePath ++ ['>']),
        .blank, .line "template <int D, class ScalarT>".toList,
        .line ("struct object_functions<".toList ++ applied type ++ ['>']), .line ['\x7b']]
      (openingLines type includePath) := by
  have named : "struct object_functions<".toList ++ applied type ++ ['>'] =
      "struct object_functions<".toList ++ type ++ "<D, ScalarT>>".toList := by
    simp [applied]
  rw [named]
  exact (Prints.line 0 _).append <| (Prints.blank 0).append <| (Prints.line 0 _).append <|
    (Prints.blank 0).append <| (Prints.line 0 _).append <| (Prints.line 0 _).append <|
    Prints.line 0 ['\x7b']

theorem prints_instructions (type : Text) (c : Catalog) (includePath : Text) :
    Prints 0 (instructions type c includePath) (headerLines type c includePath) := by
  have stubs := ((Prints.flatMap (prints_unary · type) c.unary).append
    (prints_binaries c.binarySymmetric type c)).append (prints_binaries c.binaryAsymmetric type c)
  have whole : Prints 0 _ (headerLines type c includePath) :=
    ((prints_opening type includePath).append stubs.indented).append (Prints.line 0 "\x7d;".toList)
  simpa only [instructions, List.append_assoc, List.cons_append, List.nil_append] using whole

theorem header_eq_ended (type : Text) (c : Catalog) (includePath : Text) :
    header type c includePath = ended (headerLines type c includePath) :=
  (prints_instructions type c includePath).output

theorem binaryLines_infix {operations : List Text} (listed : operation ∈ operations)
    (partnered : partner ∈ c.common ++ c.advanced) (type : Text) :
    binaryLines operation type partner <:+: binariesLines operations type c :=
  (List.infix_flatMap_of_mem partnered (binaryLines operation type)).trans
    (List.infix_flatMap_of_mem listed fun operation =>
      (c.common ++ c.advanced).flatMap (binaryLines operation type))

theorem binariesLines_infix {operations : List Text}
    (h : operations = c.binarySymmetric ∨ operations = c.binaryAsymmetric)
    (type includePath : Text) :
    binariesLines operations type c <:+: headerLines type c includePath := by
  refine List.infix_append_of_infix_left (List.infix_append_of_infix_right ?_)
  rcases h with rfl | rfl
  · exact List.infix_append_of_infix_left (List.infix_append_right ..)
  · exact List.infix_append_right ..

end Stub

/-- A plan is refused with the fault of its catalog, and else it is the default header and, for each
common type in order, the lines of its header; no partner is passed over, the type itself
included. -/
theorem plan_layout (c : Catalog) (d : Destination) :
    plan c d = (c.validate.map fun _ => ⟨d.defaultHeader, Stub.defaultHeader⟩ ::
        c.common.map fun type =>
          ⟨d.headerPath type, ended (Stub.headerLines type c d.includePath)⟩) ∧
      ∀ type ∈ c.common, ∀ operation ∈ c.binarySymmetric ++ c.binaryAsymmetric,
        ∀ partner ∈ type :: (c.common ++ c.advanced),
          Stub.binaryLines operation type partner <:+: Stub.headerLines type c d.includePath := by
  constructor
  · unfold plan
    cases c.validate with
    | error fault => rfl
    | ok u => simp only [Except.map, Stub.header_eq_ended, Catalog.generatedTypes]
  · intro type generated operation listed partner partnered
    have known : partner ∈ c.common ++ c.advanced := by
      cases List.mem_cons.1 partnered with
      | inl self => rw [self]; exact List.mem_append_left _ generated
      | inr other => exact other
    cases List.mem_append.1 listed with
    | inl symmetric =>
      exact (Stub.binaryLines_infix symmetric known type).trans
        (Stub.binariesLines_infix (.inl rfl) type d.includePath)
    | inr asymmetric =>
      exact (Stub.binaryLines_infix asymmetric known type).trans
        (Stub.binariesLines_infix (.inr rfl) type d.includePath)

theorem plan_layout_builtin :
    Catalog.builtin.validate = .ok () ∧ "pos".toList ∈ Catalog.builtin.common ∧
      "contains".toList ∈ Catalog.builtin.binarySymmetric ++ Catalog.builtin.binaryAsymmetric ∧
      "disk".toList ∈ "pos".toList :: (Catalog.builtin.common ++ Catalog.builtin.advanced) ∧
      plan .builtin .standard = .ok (⟨Destination.standard.defaultHeader, Stub.defaultHeader⟩ ::
        Catalog.builtin.common.map fun type => ⟨Destination.standard.headerPath type,
          ended (Stub.headerLines type .builtin Destination.standard.includePath)⟩) ∧
      Stub.binaryLines "contains".toList "pos".toList "disk".toList <:+:
        Stub.headerLines "pos".toList .builtin Destination.standard.includePath := by
  have layout := plan_layout .builtin .standard
  have valid : Catalog.builtin.validate = .ok () := by decide +kernel
  have planned := layout.1
  rw [valid] at planned
  refine ⟨valid, ?type, ?operation, ?partner, planned,
    layout.2 _ ?type _ ?operation _ ?partner⟩
  · decide +kernel
  · decide +kernel
  · decide +kernel

end HeaderForge
