import HeaderForge.Proofs.Bracket.Partner
import HeaderForge.Proofs.Catalog.Validation
import HeaderForge.Proofs.Stub.Layout

/-! Balanced headers. An identifier has no brackets, so a stub has those of its fixed text, and they
are balanced. The stubs one after another are therefore balanced too, and the brace that opens the
struct has its partner behind all of them, whatever the name of the included file is. -/

namespace HeaderForge

open Text

variable {s t : Text}

def brackets (t : Text) : Text := t.filter (· ∈ "\x7b\x7d[]()<>".toList)

theorem brackets_append (s t : Text) : brackets (s ++ t) = brackets s ++ brackets t :=
  List.filter_append ..

theorem brackets_ended_cons (l : Text) (ls : List Text) :
    brackets (ended (l :: ls)) = brackets l ++ brackets (ended ls) := by
  have lineEnd : brackets ['\n'] = [] := by decide +kernel
  rw [ended_cons, brackets_append, ← List.singleton_append, brackets_append, lineEnd,
    List.nil_append]

theorem brackets_of_isIdentifier (h : isIdentifier t = true) : brackets t = [] := by
  have outside : ("\x7b\x7d[]()<>".toList.all fun d => !isNameChar d) = true := by decide +kernel
  rw [List.all_eq_true] at outside
  rw [brackets, List.filter_eq_nil_iff]
  intro d mem mark
  have notName := outside d (of_decide_eq_true mark)
  rw [Bool.not_eq_true'] at notName
  exact not_mem_of_isIdentifier h notName mem

theorem isBalanced_brackets : IsBalanced (brackets t) ↔ IsBalanced t := by
  have marks : ∀ b ∈ bracketPairs,
      b.1 ∈ "\x7b\x7d[]()<>".toList ∧ b.2 ∈ "\x7b\x7d[]()<>".toList := by decide
  refine forall₂_congr fun b pair => balanced_congr ?_
  rw [brackets, List.filter_filter]
  refine List.filter_congr fun x _ => ?_
  by_cases mark : x = b.1 ∨ x = b.2
  · have listed : x ∈ "\x7b\x7d[]()<>".toList := by
      rcases mark with rfl | rfl
      · exact (marks b pair).1
      · exact (marks b pair).2
    rw [decide_eq_true mark, decide_eq_true listed, Bool.and_true]
  · rw [decide_eq_false mark, Bool.false_and]

instance (t : Text) : Decidable (IsBalanced t) :=
  inferInstanceAs (Decidable (∀ b ∈ bracketPairs, openAfter b.1 b.2 0 t = some 0))

theorem IsBalanced.append (h : IsBalanced s) (h' : IsBalanced t) : IsBalanced (s ++ t) :=
  fun b pair => (h b pair).append (h' b pair)

theorem IsBalanced.flatMap {α : Type} {f : α → Text} {as : List α}
    (h : ∀ a ∈ as, IsBalanced (f a)) : IsBalanced (as.flatMap f) := by
  induction as with
  | nil => exact fun _ _ => rfl
  | cons a as ih =>
    rw [List.forall_mem_cons] at h
    exact h.1.append (ih h.2)

theorem IsBalanced.enclosed {p : Char × Char} (pair : p ∈ bracketPairs) (h : IsBalanced t) :
    IsBalanced (p.1 :: (t ++ [p.2])) := by
  have kinds : ∀ b ∈ bracketPairs, ∀ p ∈ bracketPairs, b.1 ≠ b.2 ∧
      (p = b ∨ (p.1 ≠ b.1 ∧ p.1 ≠ b.2) ∧ p.2 ≠ b.1 ∧ p.2 ≠ b.2) := by decide
  intro b pair'
  obtain ⟨ne, rfl | ⟨first, last⟩⟩ := kinds b pair' p pair
  · rw [Balanced, openAfter_pair ne (h p pair)]
    rfl
  · have alone : Balanced b.1 b.2 [p.2] := openAfter_other last.1 last.2 []
    rw [Balanced, openAfter_other first.1 first.2]
    exact (h b pair').append alone

namespace Stub

variable {type operation partner includePath : Text} {operations : List Text} {c : Catalog}

def directive (includePath : Text) : Text :=
  ended ["#pragma once".toList, [], "#include <".toList ++ includePath ++ ">".toList]

def opening (type : Text) : Text :=
  ended [[], "template <int D, class ScalarT>".toList,
    "struct object_functions<".toList ++ type ++ "<D, ScalarT>>".toList]

def members (type : Text) (c : Catalog) : Text :=
  '\n' :: (ended (c.unary.flatMap fun operation => unaryLines operation type) ++
    (ended (binariesLines c.binarySymmetric type c) ++
      ended (binariesLines c.binaryAsymmetric type c)))

/-- The header behind its directive. -/
def specialization (type : Text) (c : Catalog) : Text :=
  opening type ++ '\x7b' :: (members type c ++ ['\x7d', ';', '\n'])

theorem ended_append (ls ms : List Text) : ended (ls ++ ms) = ended ls ++ ended ms :=
  List.flatMap_append

theorem ended_flatMap {α : Type} (f : α → List Text) (as : List α) :
    ended (as.flatMap f) = as.flatMap fun a => ended (f a) :=
  List.flatMap_assoc ..

theorem header_eq_append (type : Text) (c : Catalog) (includePath : Text) :
    header type c includePath = directive includePath ++ specialization type c := by
  have front : ended (openingLines type includePath) =
      directive includePath ++ (opening type ++ ended ["\x7b".toList]) := by
    rw [directive, opening, ← ended_append, ← ended_append]
    rfl
  have brace : ended ["\x7b".toList] = ['\x7b', '\n'] := by decide +kernel
  have last : ended ["\x7d;".toList] = ['\x7d', ';', '\n'] := by decide +kernel
  rw [header_eq_ended, headerLines, ended_append, ended_append, ended_append, ended_append, front,
    brace, last, specialization, members]
  simp only [List.append_assoc, List.cons_append, List.nil_append]

theorem brackets_stubLines (signature types : Text) :
    brackets (ended (stubLines signature types)) =
      brackets signature ++ (['\x7b', '(', '<'] ++ (brackets types ++ ['>', ')', '\x7d'])) := by
  have declared : brackets "    static constexpr auto ".toList = [] := by decide +kernel
  have opened : brackets "    \x7b".toList = ['\x7b'] := by decide +kernel
  have asserted : brackets "        static_assert(cc::always_false<".toList = ['(', '<'] := by
    decide +kernel
  have message : brackets ">, \"TODO: not yet implemented\");".toList = ['>', ')'] := by
    decide +kernel
  have closed : brackets "    \x7d".toList = ['\x7d'] := by decide +kernel
  have nothing : brackets [] = [] := rfl
  unfold stubLines declarationLine
  simp only [brackets_ended_cons, brackets_append]
  simp only [declared, opened, asserted, message, closed, nothing]
  simp [ended, nothing]

theorem brackets_arguments : brackets "<D, ScalarT>".toList = ['<', '>'] := by decide +kernel

theorem brackets_parenthesis : brackets "(".toList = ['('] := by decide +kernel

theorem isBalanced_unaryLines (named : isIdentifier operation = true)
    (typed : isIdentifier type = true) : IsBalanced (ended (unaryLines operation type)) := by
  have parameter : brackets "<D, ScalarT> const& obj)".toList = ['<', '>', ')'] := by
    decide +kernel
  rw [← isBalanced_brackets, unaryLines, brackets_stubLines]
  simp only [unarySignature, brackets_append]
  simp only [brackets_of_isIdentifier named, brackets_of_isIdentifier typed, parameter,
    brackets_parenthesis, brackets_arguments]
  decide +kernel

theorem isBalanced_binaryLines (named : isIdentifier operation = true)
    (typed : isIdentifier type = true) (partnered : isIdentifier partner = true) :
    IsBalanced (ended (binaryLines operation type partner)) := by
  have first : brackets "<D, ScalarT> const& a, ".toList = ['<', '>'] := by decide +kernel
  have second : brackets "<D, ScalarT> const& b)".toList = ['<', '>', ')'] := by decide +kernel
  have separated : brackets "<D, ScalarT>,".toList = ['<', '>'] := by decide +kernel
  rw [← isBalanced_brackets, binaryLines, brackets_stubLines]
  simp only [binarySignature, brackets_append]
  simp only [brackets_of_isIdentifier named, brackets_of_isIdentifier typed,
    brackets_of_isIdentifier partnered, first, second, separated, brackets_parenthesis,
    brackets_arguments]
  decide +kernel

section InOrder

variable (valid : c.InOrder) (generated : type ∈ c.generatedTypes)

include valid generated

theorem isIdentifier_of_generated : isIdentifier type = true :=
  valid.identifiers .types type (List.mem_append_left _ generated)

theorem isBalanced_binariesLines (named : ∀ f ∈ operations, isIdentifier f = true) :
    IsBalanced (ended (binariesLines operations type c)) := by
  have typed := isIdentifier_of_generated valid generated
  rw [binariesLines, ended_flatMap]
  refine .flatMap fun f listed => ?_
  rw [ended_flatMap]
  refine .flatMap fun p partnered => ?_
  exact isBalanced_binaryLines (named f listed) typed (valid.identifiers .types p partnered)

theorem isBalanced_members : IsBalanced (members type c) := by
  have typed := isIdentifier_of_generated valid generated
  have lineEnd : IsBalanced ['\n'] := by decide
  have unary : IsBalanced (ended (c.unary.flatMap fun f => unaryLines f type)) := by
    rw [ended_flatMap]
    exact .flatMap fun f listed => isBalanced_unaryLines (valid.identifiers .unary f listed) typed
  have symmetric := isBalanced_binariesLines valid generated (valid.identifiers .binarySymmetric)
  have asymmetric := isBalanced_binariesLines valid generated (valid.identifiers .binaryAsymmetric)
  exact lineEnd.append (unary.append (symmetric.append asymmetric))

theorem isBalanced_opening : IsBalanced (opening type) := by
  have template : brackets "template <int D, class ScalarT>".toList = ['<', '>'] := by
    decide +kernel
  have struct : brackets "struct object_functions<".toList = ['<'] := by decide +kernel
  have applied : brackets "<D, ScalarT>>".toList = ['<', '>', '>'] := by decide +kernel
  have typed := brackets_of_isIdentifier (isIdentifier_of_generated valid generated)
  rw [← isBalanced_brackets, opening]
  simp only [brackets_ended_cons, brackets_append]
  simp only [template, struct, applied, typed]
  decide +kernel

theorem isBalanced_specialization : IsBalanced (specialization type c) := by
  have struct := (isBalanced_members valid generated).enclosed
    (show ('\x7b', '\x7d') ∈ bracketPairs by decide)
  have lineEnd : IsBalanced [';', '\n'] := by decide
  have whole := (isBalanced_opening valid generated).append (struct.append lineEnd)
  rwa [List.cons_append, List.append_assoc] at whole

end InOrder

/-- Behind its directive the header of a type is the struct with its stubs. Whatever stands before
it, each bracket there has its partner there, and the brace that opens the struct has the brace of
the last line for its partner, with all stubs in between. -/
theorem header_matched (valid : c.validate = .ok ()) (generated : type ∈ c.generatedTypes)
    (includePath : Text) :
    header type c includePath = directive includePath ++ specialization type c ∧
      ∀ front, MatchedFrom (front ++ specialization type c) (utf8Size front) ∧
        indexOfClosing (front ++ specialization type c) (utf8Size (front ++ opening type)) =
          .ok (some (utf8Size (front ++ opening type ++ '\x7b' :: members type c))) := by
  have order := Catalog.validate_eq_ok_iff.1 valid
  refine ⟨header_eq_append type c includePath, fun front => ⟨?_, ?_⟩⟩
  · exact (isBalanced_specialization order generated).matchedFrom front
  · have inside := isBalanced_members order generated ('\x7b', '\x7d') (by decide)
    rw [specialization, ← List.append_assoc]
    exact indexOfClosing_enclosed (by decide) (by decide) (by decide) inside _ [';', '\n']

/-- The name of the included file leaves three brackets open. -/
theorem header_matched_unclosed :
    Catalog.validate ⟨[['p']], [['q']], [['f']], [['g']], [['h']]⟩ = .ok () ∧
      ['p'] ∈ Catalog.generatedTypes ⟨[['p']], [['q']], [['f']], [['g']], [['h']]⟩ ∧
      ¬ IsBalanced (directive ['\x7b', '(', '<']) ∧
      MatchedFrom (header ['p'] ⟨[['p']], [['q']], [['f']], [['g']], [['h']]⟩ ['\x7b', '(', '<'])
        (utf8Size (directive ['\x7b', '(', '<'])) := by
  have valid : Catalog.validate ⟨[['p']], [['q']], [['f']], [['g']], [['h']]⟩ = .ok () := by
    decide +kernel
  have generated : ['p'] ∈ Catalog.generatedTypes
      ⟨[['p']], [['q']], [['f']], [['g']], [['h']]⟩ := by decide
  have unclosed : ¬ IsBalanced (directive ['\x7b', '(', '<']) := by decide +kernel
  obtain ⟨split, matched⟩ := header_matched valid generated ['\x7b', '(', '<']
  refine ⟨valid, generated, unclosed, ?_⟩
  rw [split]
  exact (matched (directive ['\x7b', '(', '<'])).1

end Stub
end HeaderForge
