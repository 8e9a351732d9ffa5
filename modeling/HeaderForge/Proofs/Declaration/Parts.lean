import HeaderForge.Declaration
import HeaderForge.Proofs.Cursor.Passage

/-! The parts of a declaration. The line falls into modifiers, a head before the first `(`, the
parameter list up to the first `)` and a tail; a parameter falls into a type, qualifiers, a name and
perhaps a default. What is read is read from these parts, and every such cut is read. -/

namespace HeaderForge

open Text

structure Qualifiers where
  isConst : Bool
  isReference : Bool
  isPack : Bool
  deriving DecidableEq

namespace Qualifiers

def none : Qualifiers := ⟨false, false, false⟩

def text (q : Qualifiers) : Text :=
  (if q.isConst then " const".toList else []) ++ ((if q.isReference then ['&'] else []) ++
    if q.isPack then "...".toList else [])

end Qualifiers

def passIf (found : Option Cursor) (c : Cursor) : Bool × Cursor :=
  match found with
  | some d => (true, d)
  | none => (false, c)

def readQualifiers (c : Cursor) : Qualifiers × Cursor :=
  let (isConst, c) := passIf (c.eatWord? "const".toList) c
  let (isReference, c) := passIf (c.eat? ['&']) c
  let (isPack, c) := passIf (c.eat? "...".toList) c
  (⟨isConst, isReference, isPack⟩, c)

theorem passIf_eq {b : Bool} {found : Option Cursor} {c d : Cursor} (h : passIf found c = (b, d)) :
    b = true ∧ found = some d ∨ b = false ∧ found = none ∧ d = c := by
  cases found with
  | none =>
    cases h
    exact Or.inr ⟨rfl, rfl, rfl⟩
  | some e =>
    cases h
    exact Or.inl ⟨rfl, rfl⟩

theorem readQualifiers_eq_iff {c d : Cursor} {q : Qualifiers} :
    readQualifiers c = (q, d) ↔ ∃ c₁ c₂,
      passIf (c.eatWord? "const".toList) c = (q.isConst, c₁) ∧
      passIf (c₁.eat? ['&']) c₁ = (q.isReference, c₂) ∧
      passIf (c₂.eat? "...".toList) c₂ = (q.isPack, d) := by
  constructor
  · intro h
    cases h
    exact ⟨_, _, rfl, rfl, rfl⟩
  · rintro ⟨c₁, c₂, const, reference, pack⟩
    simp only [readQualifiers, const, reference, pack]

theorem qualify_eq (found : Option Cursor) (taken t : Text) (c : Cursor) :
    qualify found taken t c =
      (t ++ if (passIf found c).1 then taken else [], (passIf found c).2) := by
  cases found with
  | none => simp [qualify, passIf]
  | some d => rfl

theorem readQualifiedType_eq (c : Cursor) :
    readQualifiedType c = c.readType.map fun (t, d) =>
      (t ++ (readQualifiers d).1.text, (readQualifiers d).2) := by
  unfold readQualifiedType
  cases c.readType with
  | error e => rfl
  | ok taken =>
    simp only [qualify_eq, Except.map, readQualifiers, Qualifiers.text, List.append_assoc]
    rfl

theorem readQualifiedType_eq_ok {c d : Cursor} {t : Text} :
    readQualifiedType c = .ok (t, d) ↔
      ∃ base behind q, c.readType = .ok (base, behind) ∧ readQualifiers behind = (q, d) ∧
        t = base ++ q.text := by
  rw [readQualifiedType_eq, map_eq_ok_iff]
  constructor
  · rintro ⟨⟨base, behind⟩, read, result⟩
    cases result
    exact ⟨base, behind, _, read, rfl, rfl⟩
  · rintro ⟨base, behind, q, read, qualifiers, rfl⟩
    refine ⟨(base, behind), read, ?_⟩
    simp only [qualifiers]

def passComma (c : Cursor) : Cursor := (c.eat? [',']).getD c

theorem readParameter_eq_ok {text : Text} {c d : Cursor} {p : FunctionParameter} :
    readParameter text c = .ok (p, d) ↔
      ∃ behindType behindName, readQualifiedType c = .ok (p.typeName, behindType) ∧
        behindType.readName? = some (p.name, behindName) ∧
        p.defaultValue = (readDefault behindName).1 ∧
        d = passComma (readDefault behindName).2 := by
  unfold readParameter
  constructor
  · intro h
    split at h
    · cases h
    · rename_i typeName behindType type
      split at h
      · cases h
      · rename_i name behindName named
        cases h
        exact ⟨behindType, behindName, type, named, rfl, rfl⟩
  · rintro ⟨behindType, behindName, type, named, value, rfl⟩
    obtain ⟨typeName, name, defaultValue⟩ := p
    simp only at type named value
    simp only [type, named, value, passComma]

theorem readParameters_of_done {text : Text} {c : Cursor} (h : c.rest = []) :
    readParameters text c = .ok [] := by
  rw [readParameters, if_pos h]

theorem readParameters_of_read {text : Text} {c d : Cursor} {p : FunctionParameter}
    (left : c.rest ≠ []) (h : readParameter text c = .ok (p, d)) :
    readParameters text c = (readParameters text d).map (p :: ·) := by
  rw [readParameters, if_neg left]
  split
  · rename_i fault
    rw [h] at fault
    cases fault
  · rename_i read
    rw [h] at read
    cases read
    rfl

def modifiersOf (isNodiscard isConstexpr : Bool) : List Modifier :=
  (if isNodiscard then [.nodiscard] else []) ++ if isConstexpr then [.constexpr] else []

theorem readModifiers_eq_iff {c d : Cursor} {ms : List Modifier} :
    readModifiers c = (ms, d) ↔ ∃ isNodiscard isConstexpr c₁,
      passIf (c.eat? Modifier.nodiscard.spelling) c = (isNodiscard, c₁) ∧
      passIf (c₁.eat? Modifier.constexpr.spelling) c₁ = (isConstexpr, d) ∧
      ms = modifiersOf isNodiscard isConstexpr := by
  have one (m : Modifier) (c : Cursor) : readModifiers.take m c =
      (if (passIf (c.eat? m.spelling) c).1 then [m] else [],
        (passIf (c.eat? m.spelling) c).2) := by
    unfold readModifiers.take
    cases c.eat? m.spelling <;> rfl
  constructor
  · intro h
    simp only [readModifiers, one] at h
    cases h
    exact ⟨_, _, _, rfl, rfl, rfl⟩
  · rintro ⟨isNodiscard, isConstexpr, c₁, nodiscard, constexpr, rfl⟩
    simp only [readModifiers, one, nodiscard, constexpr, modifiersOf]

/-- The return type: what is declared, or what follows the arrow behind `auto`. -/
def ReturnsAs (declared tail returnType : Text) : Prop :=
  if declared = "auto".toList then
    ∃ trailing, trim tail = "->".toList ++ trailing ∧ returnType = trim trailing
  else returnType = declared

/-- A cut of a declaration line behind its modifiers, with what is read from each part. -/
structure CutAs (line head list tail : Text) (c : Cursor) (d : Declaration) : Prop where
  modifiers : readModifiers (.ofText line) = (d.modifiers, c)
  rest : c.rest = head ++ '(' :: (list ++ ')' :: tail)
  head_open : '(' ∉ head
  list_close : ')' ∉ list
  words : ∃ declared, words head = declared ++ [d.name] ∧
    ReturnsAs declared.flatten tail d.returnType
  parameters : readParameterList list = .ok d.parameters

theorem readDeclaration_eq_ok {line : Text} {d : Declaration} :
    readDeclaration line = .ok d ↔ ∃ head list tail c, CutAs line head list tail c d := by
  constructor
  · intro h
    unfold readDeclaration at h
    generalize modified : readModifiers (.ofText line) = found at h
    obtain ⟨modifiers, c⟩ := found
    simp only at h
    split at h
    · cases h
    · rename_i mark afterOpen opened
      split at h
      · cases h
      · rename_i name last
        split at h
        · cases h
        · rename_i mark' tail closed
          split at h
          · cases h
          · rename_i parameters read
            have rest := eq_of_dropWhile_ne opened
            rw [eq_of_dropWhile_ne closed] at rest
            have named := (List.dropLast_append_getLast? name last).symm
            refine ⟨c.rest.takeWhile (· ≠ '('), afterOpen.takeWhile (· ≠ ')'), tail, c, ?_⟩
            split at h
            · rename_i auto
              split at h
              · cases h
              · rename_i trailing arrow
                cases h
                rw [stripPrefix?_eq_some] at arrow
                refine ⟨modified, rest, not_mem_takeWhile_ne _, not_mem_takeWhile_ne _,
                  ⟨_, named, ?_⟩, read⟩
                rw [ReturnsAs, if_pos auto]
                exact ⟨trailing, arrow, rfl⟩
            · rename_i plain
              cases h
              refine ⟨modified, rest, not_mem_takeWhile_ne _, not_mem_takeWhile_ne _,
                ⟨_, named, ?_⟩, read⟩
              rw [ReturnsAs, if_neg plain]
  · rintro ⟨head, list, tail, c, cut⟩
    obtain ⟨declared, named, returned⟩ := cut.words
    unfold readDeclaration
    rw [cut.modifiers]
    simp only [cut.rest, dropWhile_append_mark cut.head_open, takeWhile_append_mark cut.head_open,
      dropWhile_append_mark cut.list_close, takeWhile_append_mark cut.list_close, named,
      cut.parameters, List.getLast?_concat, List.dropLast_concat]
    rw [ReturnsAs] at returned
    split
    · rename_i auto
      rw [if_pos auto] at returned
      obtain ⟨trailing, arrow, result⟩ := returned
      simp only [stripPrefix?_eq_some.2 arrow, ← result]
    · rename_i plain
      rw [if_neg plain] at returned
      rw [← returned]

end HeaderForge
