import HeaderForge.Proofs.Declaration.Parts
import Mathlib.Data.List.Forall2

/-! Nothing is lost in a declaration. Each reader passes what it records and blanks, so that the
line without its blanks is its fields without their blanks, in order and once each, with the marks
between them. -/

namespace HeaderForge

open Text

/-- A parameter as it was written, blanks left out: an equals sign may stand before no default, and
a comma may be missing. -/
def FunctionParameter.WrittenAs (p : FunctionParameter) (t : Text) : Prop :=
  ∃ sign comma, t = withoutBlanks p.typeName ++ withoutBlanks p.name ++ sign ++
      withoutBlanks p.defaultValue ++ comma ∧
    (sign = ['='] ∨ sign = [] ∧ p.defaultValue = []) ∧ (comma = [] ∨ comma = [','])

theorem passIf_withoutBlanks {b : Bool} {found : Option Cursor} {c d : Cursor} {t : Text}
    (h : passIf found c = (b, d)) (passed : ∀ e, found = some e → c.Passes e t) :
    withoutBlanks c.rest = (if b then withoutBlanks t else []) ++ withoutBlanks d.rest := by
  obtain ⟨rfl, found⟩ | ⟨rfl, -, rfl⟩ := passIf_eq h
  · exact (passed d found).withoutBlanks
  · rfl

theorem readQualifiers_withoutBlanks {c d : Cursor} {q : Qualifiers}
    (h : readQualifiers c = (q, d)) :
    withoutBlanks c.rest = withoutBlanks q.text ++ withoutBlanks d.rest := by
  obtain ⟨c₁, c₂, const, reference, pack⟩ := readQualifiers_eq_iff.1 h
  rw [passIf_withoutBlanks const fun _ => Cursor.passes_eatWord?,
    passIf_withoutBlanks reference fun _ => Cursor.passes_eat?,
    passIf_withoutBlanks pack fun _ => Cursor.passes_eat?]
  obtain ⟨isConst, isReference, isPack⟩ := q
  cases isConst <;> cases isReference <;> cases isPack <;> rfl

theorem readQualifiedType_withoutBlanks {c d : Cursor} {t : Text}
    (h : readQualifiedType c = .ok (t, d)) :
    withoutBlanks c.rest = withoutBlanks t ++ withoutBlanks d.rest := by
  obtain ⟨base, behind, q, type, qualifiers, rfl⟩ := readQualifiedType_eq_ok.1 h
  rw [(Cursor.passes_readType type).withoutBlanks, readQualifiers_withoutBlanks qualifiers,
    withoutBlanks_append, List.append_assoc]

theorem readDefault_withoutBlanks (c : Cursor) :
    ∃ sign, withoutBlanks c.rest =
        sign ++ withoutBlanks (readDefault c).1 ++ withoutBlanks (readDefault c).2.rest ∧
      (sign = ['='] ∨ sign = [] ∧ (readDefault c).1 = []) := by
  unfold readDefault
  split
  · rename_i d found
    refine ⟨['='], ?_, Or.inl rfl⟩
    rw [(Cursor.passes_eat? found).withoutBlanks, (Cursor.passes_readToComma d).withoutBlanks,
      List.append_assoc]
    rfl
  · exact ⟨[], rfl, Or.inr ⟨rfl, rfl⟩⟩

theorem passComma_withoutBlanks (c : Cursor) :
    ∃ comma, withoutBlanks c.rest = comma ++ withoutBlanks (passComma c).rest ∧
      (comma = [] ∨ comma = [',']) := by
  unfold passComma
  cases found : c.eat? [','] with
  | none => exact ⟨[], rfl, Or.inl rfl⟩
  | some d =>
    refine ⟨[','], ?_, Or.inr rfl⟩
    rw [(Cursor.passes_eat? found).withoutBlanks]
    rfl

theorem readParameter_withoutBlanks {text : Text} {c d : Cursor} {p : FunctionParameter}
    (h : readParameter text c = .ok (p, d)) :
    ∃ t, p.WrittenAs t ∧ withoutBlanks c.rest = t ++ withoutBlanks d.rest := by
  obtain ⟨behindType, behindName, type, named, value, rfl⟩ := readParameter_eq_ok.1 h
  obtain ⟨sign, default, signed⟩ := readDefault_withoutBlanks behindName
  obtain ⟨comma, separated, optional⟩ := passComma_withoutBlanks (readDefault behindName).2
  rw [← value] at default signed
  refine ⟨_, ⟨sign, comma, rfl, signed, optional⟩, ?_⟩
  rw [readQualifiedType_withoutBlanks type, (Cursor.passes_readName? named).withoutBlanks, default,
    separated]
  simp only [List.append_assoc]

theorem readParameters_withoutBlanks {text : Text} {c : Cursor} {ps : List FunctionParameter}
    (h : readParameters text c = .ok ps) :
    ∃ pieces, List.Forall₂ FunctionParameter.WrittenAs ps pieces ∧
      withoutBlanks c.rest = pieces.flatten := by
  -- Each parameter takes its own piece from the front.
  fun_induction readParameters text c generalizing ps with
  | case1 c done =>
    cases h
    exact ⟨[], .nil, by rw [done]; rfl⟩
  | case2 c left e fault => cases h
  | case3 c left p d read ih =>
    obtain ⟨rest, below, rfl⟩ := map_eq_ok_iff.1 h
    obtain ⟨pieces, written, whole⟩ := ih below
    obtain ⟨piece, first, split⟩ := readParameter_withoutBlanks read
    refine ⟨piece :: pieces, .cons first written, ?_⟩
    rw [split, whole, List.flatten_cons]

theorem readModifiers_withoutBlanks {c d : Cursor} {ms : List Modifier}
    (h : readModifiers c = (ms, d)) :
    withoutBlanks c.rest = ms.flatMap Modifier.spelling ++ withoutBlanks d.rest := by
  obtain ⟨isNodiscard, isConstexpr, c₁, nodiscard, constexpr, rfl⟩ := readModifiers_eq_iff.1 h
  rw [passIf_withoutBlanks nodiscard fun _ => Cursor.passes_eat?,
    passIf_withoutBlanks constexpr fun _ => Cursor.passes_eat?]
  cases isNodiscard <;> cases isConstexpr <;> rfl

/-- A line that was read is, blanks aside, its modifiers, its head, its name, its parameters in
their parentheses and a tail; the head is the return type unless it is `auto`, and then the tail
is. -/
theorem readDeclaration_conserves {line : Text} {d : Declaration}
    (h : readDeclaration line = .ok d) :
    ∃ head pieces tail, withoutBlanks line = d.modifiers.flatMap Modifier.spelling ++ head ++
        d.name ++ '(' :: (pieces.flatten ++ ')' :: tail) ∧
      '(' ∉ head ∧ ')' ∉ pieces.flatten ∧
      List.Forall₂ FunctionParameter.WrittenAs d.parameters pieces ∧
      (head ≠ "auto".toList → d.returnType = head) ∧
      (head = "auto".toList → tail = "->".toList ++ withoutBlanks d.returnType) := by
  obtain ⟨head, list, tail, c, cut⟩ := readDeclaration_eq_ok.1 h
  obtain ⟨declared, named, returned⟩ := cut.words
  obtain ⟨pieces, written, whole⟩ := readParameters_withoutBlanks cut.parameters
  have headed : withoutBlanks head = declared.flatten ++ d.name := by
    rw [← flatten_words, named, List.flatten_append, List.flatten_singleton]
  have listed : withoutBlanks list = pieces.flatten := by
    rw [← whole]
    exact (withoutBlanks_trimStart list).symm
  refine ⟨declared.flatten, pieces, withoutBlanks tail, ?_, ?_, ?_, written, ?_, ?_⟩
  · rw [← withoutBlanks_trimStart line]
    change withoutBlanks (Cursor.ofText line).rest = _
    rw [readModifiers_withoutBlanks cut.modifiers, cut.rest, withoutBlanks_append, headed,
      withoutBlanks_cons rfl, withoutBlanks_append, listed, withoutBlanks_cons rfl]
    simp only [List.append_assoc]
  · intro mem
    refine cut.head_open (List.mem_of_mem_filter (p := (!isBlank ·)) ?_)
    change '(' ∈ withoutBlanks head
    rw [headed]
    exact List.mem_append_left _ mem
  · intro mem
    refine cut.list_close (List.mem_of_mem_filter (p := (!isBlank ·)) ?_)
    change ')' ∈ withoutBlanks list
    rwa [listed]
  · intro plain
    rwa [ReturnsAs, if_neg plain] at returned
  · intro auto
    rw [ReturnsAs, if_pos auto] at returned
    obtain ⟨trailing, arrow, result⟩ := returned
    rw [← withoutBlanks_trim tail, arrow, result, withoutBlanks_append, withoutBlanks_trim]
    rfl

theorem readDeclaration_conserves_pack :
    readDeclaration "constexpr auto f(A<B, C> const&... a, int n = 2) -> R".toList =
        .ok ⟨[.constexpr], ['f'], [⟨"A<B, C> const&...".toList, ['a'], []⟩,
          ⟨"int".toList, ['n'], ['2']⟩], ['R']⟩ ∧
      ∃ head pieces tail,
        withoutBlanks "constexpr auto f(A<B, C> const&... a, int n = 2) -> R".toList =
          [.constexpr].flatMap Modifier.spelling ++ head ++ ['f'] ++
            '(' :: (pieces.flatten ++ ')' :: tail) ∧
        '(' ∉ head ∧ ')' ∉ pieces.flatten ∧
        List.Forall₂ FunctionParameter.WrittenAs [⟨"A<B, C> const&...".toList, ['a'], []⟩,
          ⟨"int".toList, ['n'], ['2']⟩] pieces ∧
        (head ≠ "auto".toList → ['R'] = head) ∧
        (head = "auto".toList → tail = "->".toList ++ withoutBlanks ['R']) := by
  refine ⟨?read, readDeclaration_conserves ?read⟩
  decide +kernel

end HeaderForge
