import HeaderForge.Proofs.Catalog.Validation
import HeaderForge.Proofs.Stub.Layout
import HeaderForge.Proofs.Text.Stop
import HeaderForge.Text.Basic

/-! The functions that a header declares. A catalog in order declares one function for each unary
operation and one for each entry of a binary operation with each partner. They are different
unless an operation is listed both as symmetric and as asymmetric, for which nothing is checked:
such an operation is declared twice with every partner. -/

namespace HeaderForge.Stub

open Text

variable {type operation operation' partner partner' includePath r s : Text}
  {operations : List Text} {c : Catalog}

def declares (line : Text) : Bool := "static constexpr auto".toList.isPrefixOf (trimStart line)

def declarations (type : Text) (c : Catalog) (includePath : Text) : List Text :=
  (lines (header type c includePath)).filter declares

def unaryDeclarations (type : Text) (c : Catalog) : List Text :=
  c.unary.map fun operation => declarationLine (unarySignature operation type)

def binaryDeclarations (operations : List Text) (type : Text) (c : Catalog) : List Text :=
  operations.flatMap fun operation =>
    (c.common ++ c.advanced).map fun partner =>
      declarationLine (binarySignature operation type partner)

theorem binaryDeclarations_append (operations others : List Text) (type : Text) (c : Catalog) :
    binaryDeclarations (operations ++ others) type c =
      binaryDeclarations operations type c ++ binaryDeclarations others type c :=
  List.flatMap_append

theorem filter_stubLines (signature types : Text) :
    (stubLines signature types).filter declares = [declarationLine signature] := rfl

theorem filter_binariesLines (operations : List Text) (type : Text) (c : Catalog) :
    (binariesLines operations type c).filter declares = binaryDeclarations operations type c := by
  simp only [binariesLines, binaryDeclarations, binaryLines, List.filter_flatMap, filter_stubLines,
    List.map_eq_flatMap]

theorem filter_headerLines (type : Text) (c : Catalog) (includePath : Text) :
    (headerLines type c includePath).filter declares =
      unaryDeclarations type c ++ binaryDeclarations c.binarySymmetric type c ++
        binaryDeclarations c.binaryAsymmetric type c := by
  have opening : (openingLines type includePath).filter declares = [] := rfl
  have closing : ["\x7d;".toList].filter declares = [] := rfl
  have unary : (c.unary.flatMap fun operation => unaryLines operation type).filter declares =
      unaryDeclarations type c := by
    simp only [unaryLines, unaryDeclarations, List.filter_flatMap, filter_stubLines,
      List.map_eq_flatMap]
  simp only [headerLines, List.filter_append, opening, closing, unary, filter_binariesLines,
    List.nil_append, List.append_nil]

theorem unarySignature_inj (h : '(' ∉ operation) (h' : '(' ∉ operation')
    (same : unarySignature operation type = unarySignature operation' type) :
    operation = operation' := by
  simp only [unarySignature, List.append_assoc] at same
  exact (cut_at_mark h h' same).1

theorem binarySignature_inj (h : '(' ∉ operation) (h' : '(' ∉ operation')
    (same : binarySignature operation type partner = binarySignature operation' type partner') :
    operation = operation' ∧ partner = partner' := by
  simp only [binarySignature, List.append_assoc] at same
  obtain ⟨operations, behind⟩ := cut_at_mark h h' same
  have second := List.append_cancel_left (List.append_cancel_left behind)
  exact ⟨operations, List.append_cancel_right (List.append_cancel_left second)⟩

theorem unarySignature_ne_binarySignature (h : '(' ∉ operation) (h' : '(' ∉ operation') :
    unarySignature operation type ≠ binarySignature operation' type partner := by
  intro same
  simp only [unarySignature, binarySignature, List.append_assoc] at same
  obtain ⟨-, behind⟩ := cut_at_mark h h' same
  have parameters := List.append_cancel_left behind
  simp at parameters

theorem declarationLine_inj : declarationLine r = declarationLine s ↔ r = s :=
  List.append_right_inj _

theorem nodup_unaryDeclarations (named : ∀ f ∈ c.unary, '(' ∉ f) (distinct : c.unary.Nodup) :
    (unaryDeclarations type c).Nodup := by
  refine List.Nodup.map_on ?_ distinct
  intro f hf g hg same
  exact unarySignature_inj (named f hf) (named g hg) (declarationLine_inj.1 same)

theorem mem_binaryDeclarations (named : ∀ f ∈ operations, '(' ∉ f) (h : '(' ∉ operation) :
    declarationLine (binarySignature operation type partner) ∈
        binaryDeclarations operations type c ↔
      operation ∈ operations ∧ partner ∈ c.common ++ c.advanced := by
  constructor
  · intro mem
    obtain ⟨f, hf, inner⟩ := List.mem_flatMap.1 mem
    obtain ⟨p, hp, same⟩ := List.mem_map.1 inner
    obtain ⟨rfl, rfl⟩ := binarySignature_inj (named f hf) h (declarationLine_inj.1 same)
    exact ⟨hf, hp⟩
  · rintro ⟨listed, partnered⟩
    exact List.mem_flatMap.2 ⟨operation, listed, List.mem_map.2 ⟨partner, partnered, rfl⟩⟩

theorem not_mem_binaryDeclarations (named : ∀ f ∈ operations, '(' ∉ f) (h : '(' ∉ operation) :
    declarationLine (unarySignature operation type) ∉ binaryDeclarations operations type c := by
  intro mem
  obtain ⟨f, hf, inner⟩ := List.mem_flatMap.1 mem
  obtain ⟨p, -, same⟩ := List.mem_map.1 inner
  exact unarySignature_ne_binarySignature h (named f hf) (declarationLine_inj.1 same).symm

theorem nodup_binaryDeclarations (named : ∀ f ∈ operations, '(' ∉ f) (distinct : operations.Nodup)
    (partners : (c.common ++ c.advanced).Nodup) :
    (binaryDeclarations operations type c).Nodup := by
  refine List.nodup_flatMap.2 ⟨fun f hf => ?_, distinct.imp_of_mem fun {f g} hf hg ne => ?_⟩
  · refine List.Nodup.map_on (fun p _ q _ same => ?_) partners
    exact (binarySignature_inj (named f hf) (named f hf) (declarationLine_inj.1 same)).2
  · intro line mem mem'
    obtain ⟨p, -, rfl⟩ := List.mem_map.1 mem
    obtain ⟨q, -, same⟩ := List.mem_map.1 mem'
    exact ne (binarySignature_inj (named g hg) (named f hf) (declarationLine_inj.1 same)).1.symm

theorem newline_not_mem_stubLines {signature types : Text} (declared : '\n' ∉ signature)
    (asserted : '\n' ∉ types) : ∀ l ∈ stubLines signature types, '\n' ∉ l := by
  have first : '\n' ∉ declarationLine signature := List.not_mem_append (by decide) declared
  simp only [stubLines, List.forall_mem_cons, List.mem_append, not_or]
  exact ⟨first, by decide, ⟨⟨by decide, asserted⟩, by decide⟩, by decide, by decide, by simp⟩

theorem newline_not_mem_binariesLines (named : ∀ f ∈ operations, '\n' ∉ f) (h : '\n' ∉ type)
    (partners : ∀ p ∈ c.common ++ c.advanced, '\n' ∉ p) :
    ∀ l ∈ binariesLines operations type c, '\n' ∉ l := by
  intro l hl
  obtain ⟨f, hf, inner⟩ := List.mem_flatMap.1 hl
  obtain ⟨p, hp, mem⟩ := List.mem_flatMap.1 inner
  refine newline_not_mem_stubLines ?_ ?_ l mem
  · simp only [binarySignature, List.mem_append, not_or]
    exact ⟨⟨⟨⟨⟨named f hf, by decide⟩, h⟩, by decide⟩, partners p hp⟩, by decide⟩
  · simp only [List.mem_append, not_or]
    exact ⟨⟨⟨h, by decide⟩, partners p hp⟩, by decide⟩

theorem newline_not_mem_headerLines (valid : c.InOrder) (generated : type ∈ c.generatedTypes)
    (single : '\n' ∉ includePath) : ∀ l ∈ headerLines type c includePath, '\n' ∉ l := by
  have clean : ∀ list, ∀ n ∈ c.names list, '\n' ∉ n := valid.not_mem rfl
  have own : '\n' ∉ type := clean .types type (List.mem_append_left _ generated)
  have opening : ∀ l ∈ openingLines type includePath, '\n' ∉ l := by
    simp only [openingLines, List.forall_mem_cons, List.mem_append, not_or]
    exact ⟨by decide, by decide, ⟨⟨by decide, single⟩, by decide⟩, by decide, by decide,
      ⟨⟨by decide, own⟩, by decide⟩, by decide, by simp⟩
  have unary : ∀ l ∈ c.unary.flatMap fun f => unaryLines f type, '\n' ∉ l := by
    intro l hl
    obtain ⟨f, hf, mem⟩ := List.mem_flatMap.1 hl
    refine newline_not_mem_stubLines ?_ ?_ l mem
    · simp only [unarySignature, List.mem_append, not_or]
      exact ⟨⟨⟨clean .unary f hf, by decide⟩, own⟩, by decide⟩
    · exact List.not_mem_append own (by decide)
  have symmetric := newline_not_mem_binariesLines (clean .binarySymmetric) own (clean .types)
  have asymmetric := newline_not_mem_binariesLines (clean .binaryAsymmetric) own (clean .types)
  have closing : ∀ l ∈ ["\x7d;".toList], '\n' ∉ l := by decide
  simp only [headerLines, List.forall_mem_append]
  exact ⟨⟨opening, ⟨unary, symmetric⟩, asymmetric⟩, closing⟩

theorem declarations_eq (valid : c.InOrder) (generated : type ∈ c.generatedTypes)
    (single : '\n' ∉ includePath) :
    declarations type c includePath =
      unaryDeclarations type c ++
        binaryDeclarations (c.binarySymmetric ++ c.binaryAsymmetric) type c := by
  have lines := lines_ended (newline_not_mem_headerLines valid generated single)
  have last : [([] : Text)].filter declares = [] := rfl
  rw [declarations, header_eq_ended, lines, List.filter_append, last, List.append_nil,
    filter_headerLines, binaryDeclarations_append, List.append_assoc]

section InOrder

variable (valid : c.InOrder) (generated : type ∈ c.generatedTypes) (single : '\n' ∉ includePath)

include valid

theorem parenthesis_not_mem : ∀ list, ∀ n ∈ c.names list, '(' ∉ n := valid.not_mem rfl

theorem parenthesis_not_mem_binary : ∀ f ∈ c.binarySymmetric ++ c.binaryAsymmetric, '(' ∉ f :=
  List.forall_mem_append.2
    ⟨parenthesis_not_mem valid .binarySymmetric, parenthesis_not_mem valid .binaryAsymmetric⟩

include generated single

theorem count_unary {f : Text} (listed : f ∈ c.unary) :
    (declarations type c includePath).count (declarationLine (unarySignature f type)) = 1 := by
  have names := parenthesis_not_mem valid .unary
  have own : (unaryDeclarations type c).count (declarationLine (unarySignature f type)) = 1 :=
    List.count_eq_one_of_mem (nodup_unaryDeclarations names (valid.distinct .unary))
      (List.mem_map.2 ⟨f, listed, rfl⟩)
  have others : declarationLine (unarySignature f type) ∉
      binaryDeclarations (c.binarySymmetric ++ c.binaryAsymmetric) type c :=
    not_mem_binaryDeclarations (parenthesis_not_mem_binary valid) (names f listed)
  rw [declarations_eq valid generated single, List.count_append, own, List.count_eq_zero.2 others]

theorem count_binary {f p : Text} (plain : '(' ∉ f) (partnered : p ∈ c.common ++ c.advanced) :
    (declarations type c includePath).count (declarationLine (binarySignature f type p)) =
      (if f ∈ c.binarySymmetric then 1 else 0) + if f ∈ c.binaryAsymmetric then 1 else 0 := by
  have names := parenthesis_not_mem valid
  have part (operations : List Text) (named : ∀ g ∈ operations, '(' ∉ g)
      (distinct : operations.Nodup) :
      (binaryDeclarations operations type c).count (declarationLine (binarySignature f type p)) =
        if f ∈ operations then 1 else 0 := by
    rw [(nodup_binaryDeclarations named distinct (valid.distinct .types)).count]
    simp only [mem_binaryDeclarations named plain, partnered, and_true]
  have unary : declarationLine (binarySignature f type p) ∉ unaryDeclarations type c := by
    intro mem
    obtain ⟨g, hg, same⟩ := List.mem_map.1 mem
    exact unarySignature_ne_binarySignature (names .unary g hg) plain (declarationLine_inj.1 same)
  rw [declarations_eq valid generated single, List.count_append, List.count_eq_zero.2 unary,
    binaryDeclarations_append, List.count_append,
    part c.binarySymmetric (names .binarySymmetric) (valid.distinct .binarySymmetric),
    part c.binaryAsymmetric (names .binaryAsymmetric) (valid.distinct .binaryAsymmetric),
    Nat.zero_add]

theorem nodup_declarations (apart : ∀ f ∈ c.binarySymmetric, f ∉ c.binaryAsymmetric) :
    (declarations type c includePath).Nodup := by
  have names := parenthesis_not_mem valid .unary
  have binary := parenthesis_not_mem_binary valid
  have distinct : (c.binarySymmetric ++ c.binaryAsymmetric).Nodup := by
    refine List.nodup_append.2
      ⟨valid.distinct .binarySymmetric, valid.distinct .binaryAsymmetric, ?_⟩
    intro f hf g hg same
    exact apart f hf (same ▸ hg)
  rw [declarations_eq valid generated single, List.nodup_append]
  refine ⟨nodup_unaryDeclarations names (valid.distinct .unary),
    nodup_binaryDeclarations binary distinct (valid.distinct .types), ?_⟩
  intro line mem line' mem' same
  obtain ⟨f, hf, rfl⟩ := List.mem_map.1 mem
  exact not_mem_binaryDeclarations binary (names f hf) (same ▸ mem')

end InOrder

/-- The functions that the header of a type declares: one for each unary operation and, with each
partner, one for each entry of a binary operation. An operation with two entries, which is one
listed as symmetric and as asymmetric, is declared twice with each partner, and no other is. -/
theorem header_declarations (valid : c.validate = .ok ()) (generated : type ∈ c.generatedTypes)
    (single : '\n' ∉ includePath) :
    declarations type c includePath = unaryDeclarations type c ++
        binaryDeclarations (c.binarySymmetric ++ c.binaryAsymmetric) type c ∧
      (∀ f ∈ c.unary,
        (declarations type c includePath).count (declarationLine (unarySignature f type)) = 1) ∧
      (∀ f ∈ c.binarySymmetric ++ c.binaryAsymmetric, ∀ p ∈ c.common ++ c.advanced,
        (declarations type c includePath).count (declarationLine (binarySignature f type p)) =
          if f ∈ c.binarySymmetric ∧ f ∈ c.binaryAsymmetric then 2 else 1) ∧
      ((declarations type c includePath).Nodup ↔
        ∀ f ∈ c.binarySymmetric, f ∉ c.binaryAsymmetric) := by
  have order := Catalog.validate_eq_ok_iff.1 valid
  have binary := parenthesis_not_mem_binary order
  refine ⟨declarations_eq order generated single,
    fun f listed => count_unary order generated single listed, ?_, ?_⟩
  · intro f listed p partnered
    rw [count_binary order generated single (binary f listed) partnered]
    rw [List.mem_append] at listed
    by_cases symmetric : f ∈ c.binarySymmetric
    · by_cases asymmetric : f ∈ c.binaryAsymmetric <;> simp [symmetric, asymmetric]
    · simp [symmetric, listed.resolve_left symmetric]
  · refine ⟨fun once f symmetric asymmetric => ?_, nodup_declarations order generated single⟩
    have own : type ∈ c.common ++ c.advanced := List.mem_append_left _ generated
    have twice := count_binary order generated single
      (parenthesis_not_mem order .binarySymmetric f symmetric) own
    rw [if_pos symmetric, if_pos asymmetric] at twice
    have atMost := List.nodup_iff_count_le_one.1 once
      (declarationLine (binarySignature f type type))
    omega

/-- Names of which one begins another, and an operation in both binary lists. -/
theorem header_declarations_prefixes :
    Catalog.validate ⟨[['p'], ['p', 'q']], [['q']], [['f']], [['f'], ['f', 'g']], [['f']]⟩ =
        .ok () ∧
      ['p'] ∈ Catalog.generatedTypes
        ⟨[['p'], ['p', 'q']], [['q']], [['f']], [['f'], ['f', 'g']], [['f']]⟩ ∧
      '\n' ∉ ['h'] ∧
      (declarations ['p'] ⟨[['p'], ['p', 'q']], [['q']], [['f']], [['f'], ['f', 'g']], [['f']]⟩
        ['h']).count (declarationLine (binarySignature ['f', 'g'] ['p'] ['p', 'q'])) = 1 ∧
      (declarations ['p'] ⟨[['p'], ['p', 'q']], [['q']], [['f']], [['f'], ['f', 'g']], [['f']]⟩
        ['h']).count (declarationLine (binarySignature ['f'] ['p'] ['q'])) = 2 := by
  have valid : Catalog.validate
      ⟨[['p'], ['p', 'q']], [['q']], [['f']], [['f'], ['f', 'g']], [['f']]⟩ = .ok () := by
    decide +kernel
  have generated : ['p'] ∈ Catalog.generatedTypes
      ⟨[['p'], ['p', 'q']], [['q']], [['f']], [['f'], ['f', 'g']], [['f']]⟩ := by decide
  have single : '\n' ∉ ['h'] := by decide
  have counts := (header_declarations valid generated single).2.2.1
  exact ⟨valid, generated, single, counts ['f', 'g'] (by decide) ['p', 'q'] (by decide),
    counts ['f'] (by decide) ['q'] (by decide)⟩

/-- An accepted catalog with which a header declares one function twice. -/
theorem declarations_repeated :
    Catalog.validate ⟨[['p']], [], [], [['f']], [['f']]⟩ = .ok () ∧
      ['p'] ∈ Catalog.generatedTypes ⟨[['p']], [], [], [['f']], [['f']]⟩ ∧ '\n' ∉ ['h'] ∧
      ¬ (declarations ['p'] ⟨[['p']], [], [], [['f']], [['f']]⟩ ['h']).Nodup := by
  decide +kernel

end HeaderForge.Stub
