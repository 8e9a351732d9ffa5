import HeaderForge.Text.Basic

/-! What can be wrong with header text, and how each fault is worded. Offsets count UTF-8 bytes in
the quoted text, line numbers start at one. -/

namespace HeaderForge

inductive ReadError
  | invalidBracket (offset : Nat) (text : Text)
  | unbalancedBracket (bracket : Char) (offset : Nat) (text : Text)
  | missingTemplateList (line : Text)
  | malformedTemplateParameter (entry : Text)
  | missingOpenParen (line : Text)
  | missingCloseParen (line : Text)
  | missingFunctionName (line : Text)
  | missingParameterName (typeName : Text) (text : Text)
  | missingTrailingReturn (line : Text)
  | missingTemplateLine (line : Nat)
  | missingBodyOpen (line : Nat) (found : Text)
  | unterminatedBody (line : Nat)
  deriving DecidableEq, Repr

namespace ReadError

def message : ReadError → Text
  | invalidBracket offset text =>
      "expected one of '\x7b', '(' or '<' at offset ".toList ++ Text.decimal offset ++
        " in: ".toList ++ text
  | unbalancedBracket bracket offset text =>
      "unbalanced '".toList ++ [bracket] ++ "' at offset ".toList ++ Text.decimal offset ++
        " in: ".toList ++ text
  | missingTemplateList line => "no template parameter list in: ".toList ++ line
  | malformedTemplateParameter entry =>
      "template parameter needs a type and a name: '".toList ++ entry ++ ['\'']
  | missingOpenParen line => "no '(' in declaration: ".toList ++ line
  | missingCloseParen line => "no ')' closing the parameter list in: ".toList ++ line
  | missingFunctionName line => "no function name before '(' in: ".toList ++ line
  | missingParameterName typeName text =>
      "parameter of type '".toList ++ typeName ++ "' has no name in: ".toList ++ text
  | missingTrailingReturn line =>
      "'auto' return type without trailing '->' in: ".toList ++ line
  | missingTemplateLine line => atLine line "declaration has no template line above it".toList
  | missingBodyOpen line found =>
      atLine line ("expected '\x7b' after declaration, found '".toList ++ found ++ ['\''])
  | unterminatedBody line =>
      atLine line "function body is never closed by a '\x7d' line".toList
where
  atLine (line : Nat) (fault : Text) : Text :=
    "line ".toList ++ Text.decimal line ++ ": ".toList ++ fault

def shiftLine (count : Nat) : ReadError → ReadError
  | missingTemplateLine line => missingTemplateLine (line + count)
  | missingBodyOpen line found => missingBodyOpen (line + count) found
  | unterminatedBody line => unterminatedBody (line + count)
  | e => e

end ReadError

section Result

variable {ε α β : Type} {f : α → β} {x : Except ε α}

theorem map_eq_ok_iff {b : β} : x.map f = .ok b ↔ ∃ a, x = .ok a ∧ f a = b := by
  cases x <;> simp [Except.map]

theorem map_eq_error_iff {e : ε} : x.map f = .error e ↔ x = .error e := by
  cases x <;> simp [Except.map]

theorem mapError_map (g : ε → ε) : (x.map f).mapError g = (x.mapError g).map f := by
  cases x <;> rfl

theorem map_map {γ : Type} (g : β → γ) : (x.map f).map g = x.map (g ∘ f) := by
  cases x <;> rfl

end Result

end HeaderForge
