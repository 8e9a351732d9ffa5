import HeaderForge.Cursor
import HeaderForge.Definition

/-! Declaration lines such as `[[nodiscard]] constexpr auto f(A const& a) -> B`. The name is the
last word before the first `(`, the parameters end at the first `)` after it. -/

namespace HeaderForge

def qualify (found : Option Cursor) (taken : Text) (typeName : Text) (c : Cursor) :
    Text × Cursor :=
  match found with
  | some d => (typeName ++ taken, d)
  | none => (typeName, c)

def readQualifiedType (c : Cursor) : Except ReadError (Text × Cursor) :=
  match c.readType with
  | .error e => .error e
  | .ok (typeName, c) =>
      let (typeName, c) := qualify (c.eatWord? "const".toList) " const".toList typeName c
      let (typeName, c) := qualify (c.eat? ['&']) ['&'] typeName c
      .ok (qualify (c.eat? "...".toList) "...".toList typeName c)

def readDefault (c : Cursor) : Text × Cursor :=
  match c.eat? ['='] with
  | some c => c.readToComma
  | none => ([], c)

def readParameter (text : Text) (c : Cursor) : Except ReadError (FunctionParameter × Cursor) :=
  match readQualifiedType c with
  | .error e => .error e
  | .ok (typeName, c) =>
    match c.readName? with
    | none => .error (.missingParameterName typeName text)
    | some (name, c) =>
        let (defaultValue, c) := readDefault c
        .ok (⟨typeName, name, defaultValue⟩, (c.eat? [',']).getD c)

theorem length_qualify_le {found : Option Cursor} {c : Cursor} (taken typeName : Text)
    (h : ∀ d, found = some d → d.rest.length ≤ c.rest.length) :
    (qualify found taken typeName c).2.rest.length ≤ c.rest.length := by
  unfold qualify
  split
  · exact h _ rfl
  · exact Nat.le_refl _

theorem length_readQualifiedType_le {c d : Cursor} {t : Text}
    (h : readQualifiedType c = .ok (t, d)) : d.rest.length ≤ c.rest.length := by
  unfold readQualifiedType at h
  split at h
  · cases h
  · rename_i t₁ c₁ h₁
    simp only [Except.ok.injEq] at h
    have l₁ := Cursor.length_readType_le h₁
    have l₂ := length_qualify_le (c := c₁) " const".toList t₁
      fun _ => Cursor.length_eatWord?_le (t := "const".toList)
    generalize qualify (c₁.eatWord? "const".toList) " const".toList t₁ c₁ = q₂ at h l₂
    have l₃ := length_qualify_le (c := q₂.2) ['&'] q₂.1
      fun _ => Cursor.length_eat?_le (t := ['&'])
    generalize qualify (q₂.2.eat? ['&']) ['&'] q₂.1 q₂.2 = q₃ at h l₃
    have l₄ := length_qualify_le (c := q₃.2) "...".toList q₃.1
      fun _ => Cursor.length_eat?_le (t := "...".toList)
    rw [h] at l₄
    simp only at l₄
    omega

theorem length_readDefault_le (c : Cursor) : (readDefault c).2.rest.length ≤ c.rest.length := by
  unfold readDefault
  split
  · rename_i d hd
    exact Nat.le_trans (Cursor.length_readToComma_le d) (Cursor.length_eat?_le hd)
  · exact Nat.le_refl _

theorem length_readParameter_lt {text : Text} {c d : Cursor} {p : FunctionParameter}
    (h : readParameter text c = .ok (p, d)) : d.rest.length < c.rest.length := by
  unfold readParameter at h
  split at h
  · cases h
  · rename_i t c₁ h₁
    split at h
    · cases h
    · rename_i name c₂ h₂
      simp only [Except.ok.injEq, Prod.mk.injEq] at h
      obtain ⟨-, rfl⟩ := h
      have l₁ := length_readQualifiedType_le h₁
      have l₂ := Cursor.length_readName?_lt h₂
      have l₃ := length_readDefault_le c₂
      cases h₄ : (readDefault c₂).2.eat? [','] with
      | none =>
        simp only [Option.getD_none]
        omega
      | some c₃ =>
        have l₄ := Cursor.length_eat?_le h₄
        simp only [Option.getD_some]
        omega

def readParameters (text : Text) (c : Cursor) : Except ReadError (List FunctionParameter) :=
  if c.rest = [] then .ok []
  else
    match _h : readParameter text c with
    | .error e => .error e
    | .ok (p, d) => (readParameters text d).map (p :: ·)
termination_by c.rest.length
decreasing_by exact length_readParameter_lt _h

def readParameterList (text : Text) : Except ReadError (List FunctionParameter) :=
  readParameters text (.ofText text)

/-- The modifiers at the front of a declaration, each taken at most once and in this order. -/
def readModifiers (c : Cursor) : List Modifier × Cursor :=
  let (first, c) := take .nodiscard c
  let (second, c) := take .constexpr c
  (first ++ second, c)
where
  take (m : Modifier) (c : Cursor) : List Modifier × Cursor :=
    match c.eat? m.spelling with
    | some d => ([m], d)
    | none => ([], c)

/-- Reads a declaration from one line. An `auto` return type is replaced by the text after the
`->` that must then follow the parameters; any other text after them is not read. -/
def readDeclaration (line : Text) : Except ReadError Declaration :=
  let (modifiers, c) := readModifiers (.ofText line)
  match c.rest.dropWhile (· ≠ '(') with
  | [] => .error (.missingOpenParen line)
  | _ :: afterOpen =>
    let words := Text.words (c.rest.takeWhile (· ≠ '('))
    match words.getLast? with
    | none => .error (.missingFunctionName line)
    | some name =>
      match afterOpen.dropWhile (· ≠ ')') with
      | [] => .error (.missingCloseParen line)
      | _ :: tail =>
        match readParameterList (afterOpen.takeWhile (· ≠ ')')) with
        | .error e => .error e
        | .ok parameters =>
          let returnType := words.dropLast.flatten
          if returnType = "auto".toList then
            match Text.stripPrefix? "->".toList (Text.trim tail) with
            | none => .error (.missingTrailingReturn line)
            | some trailing => .ok ⟨modifiers, name, parameters, Text.trim trailing⟩
          else .ok ⟨modifiers, name, parameters, returnType⟩

end HeaderForge
