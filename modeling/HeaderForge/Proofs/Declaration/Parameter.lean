import HeaderForge.Proofs.Cursor.Reading
import HeaderForge.Proofs.Declaration.Parts
import HeaderForge.Proofs.Display

/-! Parameters that are read back. A parameter is legible if its type carries the qualifiers a
reader finds behind it and its name is not taken for one more. A list of legible parameters,
displayed, is read as that list, and what is read from any text is legible. -/

namespace HeaderForge

open Text Cursor

variable {c d : Cursor} {q : Qualifiers} {p : FunctionParameter} {text t s r w : Text}

/-- A reader of qualifiers stops in front of `t` with those in `q`. -/
structure Qualifiers.EndAt (q : Qualifiers) (t : Text) : Prop where
  pack : q.isPack = false → ¬ "...".toList <+: t
  reference : q.isReference = false → q.isPack = false → ¬ ['&'] <+: t
  const : q = .none → ¬ BeginsWith "const".toList t

def BeginsQualified (name : Text) : Prop :=
  ['&'] <+: name ∨ "...".toList <+: name ∨ BeginsWith "const".toList name

instance (name : Text) : Decidable (BeginsQualified name) :=
  inferInstanceAs (Decidable (_ ∨ _ ∨ _))

theorem Qualifiers.endAt (q : Qualifiers) (h : ¬ BeginsQualified t) : q.EndAt t := by
  rw [BeginsQualified, not_or, not_or] at h
  exact ⟨fun _ => h.2.1, fun _ _ => h.1, fun _ => h.2.2⟩

theorem Qualifiers.EndAt.append (h : q.EndAt t) (stop : StopsAt (!endsName ·) r) :
    q.EndAt (t ++ r) := by
  have mark {w : Text} (name : w.any endsName = false) : ∀ ch ∈ r.head?, ch ∉ w := by
    intro ch hch mem
    have ends := stop ch hch
    simp [List.any_eq_false.1 name ch mem] at ends
  refine ⟨?_, ?_, ?_⟩
  · intro pack front
    exact h.pack pack (prefix_of_prefix_append front (mark (by decide)))
  · intro reference pack front
    exact h.reference reference pack (prefix_of_prefix_append front (mark (by decide)))
  · rintro none ⟨w, split, stop'⟩
    have front : "const".toList <+: t ++ r := ⟨w, split.symm⟩
    obtain ⟨v, rfl⟩ := prefix_of_prefix_append front (mark (by decide))
    refine h.const none ⟨v, rfl, ?_⟩
    rw [List.append_assoc, List.append_cancel_left_eq] at split
    rw [← split] at stop'
    cases v with
    | nil => exact stopsAt_nil
    | cons ch v => exact stopsAt_cons.2 (stopsAt_cons.1 stop')

theorem Qualifiers.EndAt.of_append (h : q.EndAt (t ++ r)) (stop : StopsAt (!endsName ·) r) :
    q.EndAt t := by
  refine ⟨?_, ?_, ?_⟩
  · intro pack front
    exact h.pack pack (front.trans (List.prefix_append t r))
  · intro reference pack front
    exact h.reference reference pack (front.trans (List.prefix_append t r))
  · rintro none ⟨w, rfl, stop'⟩
    refine h.const none ⟨w ++ r, List.append_assoc .., ?_⟩
    cases w with
    | cons ch w => exact stopsAt_cons.2 (stopsAt_cons.1 stop')
    | nil =>
      intro ch hch
      exact isWordChar_of_endsName (by simpa using stop ch hch)

theorem passIf_eat? {b : Bool} (blank : AllBlank w) (solid : trimStart t = t) (ne : t ≠ [])
    (stop : b = false → ¬ t <+: (ofText s).rest) :
    passIf ((ofText ((if b then t ++ w else []) ++ s)).eat? t)
      (ofText ((if b then t ++ w else []) ++ s)) = (b, ofText s) := by
  cases b with
  | false =>
    rw [if_neg Bool.false_ne_true, List.nil_append, eat?_eq_none (stop rfl)]
    rfl
  | true =>
    have clear : trimStart (t ++ (w ++ s)) = t ++ (w ++ s) := trimStart_append solid ne
    rw [if_pos rfl, List.append_assoc, ofText_rest clear, eat?_append, ofText_blank_append blank]
    rfl

theorem passIf_eatWord? {b : Bool} (blank : AllBlank w) (solid : trimStart t = t) (ne : t ≠ [])
    (word : b = true → StopsAt isWordChar (w ++ s))
    (stop : b = false → ¬ BeginsWith t (ofText s).rest) :
    passIf ((ofText ((if b then t ++ w else []) ++ s)).eatWord? t)
      (ofText ((if b then t ++ w else []) ++ s)) = (b, ofText s) := by
  cases b with
  | false =>
    rw [if_neg Bool.false_ne_true, List.nil_append, eatWord?_eq_none (stop rfl)]
    rfl
  | true =>
    have clear : trimStart (t ++ (w ++ s)) = t ++ (w ++ s) := trimStart_append solid ne
    rw [if_pos rfl, List.append_assoc, ofText_rest clear, eatWord?_append (word rfl),
      ofText_blank_append blank]
    rfl

structure Gaps where
  const : Text
  reference : Text
  pack : Text

structure Gaps.AreBlank (g : Gaps) : Prop where
  const : AllBlank g.const
  reference : AllBlank g.reference
  pack : AllBlank g.pack

def Qualifiers.spread (q : Qualifiers) (g : Gaps) : Text :=
  (if q.isConst then "const".toList ++ g.const else []) ++
    ((if q.isReference then ['&'] ++ g.reference else []) ++
      if q.isPack then "...".toList ++ g.pack else [])

/-- However the qualifiers are spaced, a reader has them where no further one stands; only `const`
must be kept apart from a word behind it. -/
theorem readQualifiers_spread {g : Gaps} (blank : g.AreBlank) (stop : q.EndAt (ofText r).rest)
    (word : q.isConst = true → q.isReference = false → q.isPack = false →
      StopsAt isWordChar (g.const ++ r)) :
    readQualifiers (ofText (q.spread g ++ r)) = (q, ofText r) := by
  obtain ⟨isConst, isReference, isPack⟩ := q
  let packText := (if isPack then "...".toList ++ g.pack else []) ++ r
  let referenceText := (if isReference then ['&'] ++ g.reference else []) ++ packText
  have noReference : isReference = false → ¬ ['&'] <+: (ofText packText).rest := by
    intro absent
    cases isPack with
    | false => exact stop.reference absent rfl
    | true =>
      intro front
      cases (List.cons_prefix_cons.1 front).1
  have noConst : isConst = false → ¬ BeginsWith "const".toList (ofText referenceText).rest := by
    rintro rfl
    cases isReference with
    | true =>
      rintro ⟨w, split, -⟩
      cases split
    | false =>
      cases isPack with
      | true =>
        rintro ⟨w, split, -⟩
        cases split
      | false => exact stop.const rfl
  have ended : isConst = true → StopsAt isWordChar (g.const ++ referenceText) := by
    intro const
    by_cases bare : isReference = false ∧ isPack = false
    · obtain ⟨rfl, rfl⟩ := bare
      exact word const rfl rfl
    · refine stopsAt_blank_append (fun ch => isWordChar_of_isBlank) blank.const ?_
      cases isReference with
      | true => exact stopsAt_cons.2 (by decide +kernel)
      | false =>
        cases isPack with
        | true => exact stopsAt_cons.2 (by decide +kernel)
        | false => exact absurd ⟨rfl, rfl⟩ bare
  have const := passIf_eatWord? (t := "const".toList) blank.const rfl (by decide) ended noConst
  have reference := passIf_eat? (t := ['&']) blank.reference rfl (by decide) noReference
  have pack := passIf_eat? (t := "...".toList) blank.pack rfl (by decide) stop.pack
  rw [readQualifiers_eq_iff]
  refine ⟨_, _, ?_, reference, pack⟩
  simpa only [Qualifiers.spread, List.append_assoc] using const

theorem readQualifiers_text (clear : trimStart r = r) (stop : q.EndAt r) :
    readQualifiers (ofText (q.text ++ ' ' :: r)) = (q, ⟨r⟩) := by
  have spaced : ofText (' ' :: r) = ⟨r⟩ := by
    rw [ofText_blank_cons rfl, ofText_rest clear]
  have front : ofText (q.text ++ ' ' :: r) = ofText (q.spread ⟨[], [], []⟩ ++ ' ' :: r) := by
    obtain ⟨isConst, isReference, isPack⟩ := q
    simp only [Qualifiers.text, Qualifiers.spread, List.append_nil]
    cases isConst with
    | false => rfl
    | true => exact ofText_blank_cons rfl _
  rw [front, readQualifiers_spread ⟨allBlank_nil, allBlank_nil, allBlank_nil⟩ (by rwa [spaced])
    fun _ _ _ => stopsAt_cons.2 (isWordChar_of_isBlank rfl), spaced]

theorem readQualifiers_endAt (h : readQualifiers c = (q, d)) : q.EndAt d.rest := by
  obtain ⟨c₁, c₂, const, reference, pack⟩ := readQualifiers_eq_iff.1 h
  refine ⟨?_, ?_, ?_⟩
  · intro noPack
    rw [noPack] at pack
    obtain ⟨found, -⟩ | ⟨-, absent, rfl⟩ := passIf_eq pack
    · cases found
    · exact not_prefix_of_eat? absent
  · intro noReference noPack
    rw [noPack] at pack
    rw [noReference] at reference
    obtain ⟨found, -⟩ | ⟨-, -, rfl⟩ := passIf_eq pack
    · cases found
    obtain ⟨found, -⟩ | ⟨-, absent, rfl⟩ := passIf_eq reference
    · cases found
    · exact not_prefix_of_eat? absent
  · rintro rfl
    obtain ⟨found, -⟩ | ⟨-, -, rfl⟩ := passIf_eq pack
    · cases found
    obtain ⟨found, -⟩ | ⟨-, -, rfl⟩ := passIf_eq reference
    · cases found
    obtain ⟨found, -⟩ | ⟨-, absent, rfl⟩ := passIf_eq const
    · cases found
    · exact not_beginsWith_of_eatWord? absent

/-- A parameter that is displayed as it is read. -/
structure FunctionParameter.IsLegible (p : FunctionParameter) : Prop where
  type : ∃ (base : Text) (q : Qualifiers), p.typeName = base ++ q.text ∧
    (IsPlain base ∧ (q.isConst = true ∨ q = .none) ∨ IsTemplated base) ∧ q.EndAt p.name
  name : IsName p.name
  default : IsItem p.defaultValue

/-- Legible parameters, each of which but the last has a default that a comma ends. -/
def IsLegibleList : List FunctionParameter → Prop
  | [] => True
  | p :: ps => p.IsLegible ∧ (ps ≠ [] → Nesting.top.after p.defaultValue = .top) ∧ IsLegibleList ps

theorem readQualifiedType_display (h : p.IsLegible) (stop : StopsAt (!endsName ·) r) :
    readQualifiedType ⟨p.typeName ++ ' ' :: (p.name ++ r)⟩ = .ok (p.typeName, ⟨p.name ++ r⟩) := by
  obtain ⟨base, q, type, kind, ends⟩ := h.type
  have clear : trimStart (p.name ++ r) = p.name ++ r :=
    trimStart_append (trimStart_eq_self_iff.2 h.name.solid) h.name.1
  rw [readQualifiedType_eq_ok]
  refine ⟨base, ofText (q.text ++ ' ' :: (p.name ++ r)), q, ?_,
    readQualifiers_text clear (ends.append stop), type⟩
  rw [type, List.append_assoc]
  obtain ⟨plain, spaced⟩ | templated := kind
  · apply readType_plain plain
    obtain const | rfl := spaced
    · rw [Qualifiers.text, if_pos const]
      exact stopsAt_cons.2 rfl
    · exact stopsAt_cons.2 rfl
  · exact readType_templated templated _

theorem readDefault_none (stop : StopsAt (· ≠ ',') r) :
    readDefault (ofText r) = ([], ofText r) := by
  have absent : (ofText r).eat? ['='] = none := by
    apply eat?_eq_none
    cases r with
    | nil => simp [ofText]
    | cons ch r =>
      have comma : ch = ',' := by simpa using stopsAt_cons.1 stop
      rw [comma, ofText_cons rfl]
      intro front
      cases (List.cons_prefix_cons.1 front).1
  rw [readDefault, absent]

theorem readDefault_assigned {v : Text} (h : IsItem t) (ne : t ≠ []) (sign : AllBlank w)
    (blank : AllBlank v) (stop : StopsAt (· ≠ ',') r)
    (outside : r ≠ [] → Nesting.top.after t = .top) :
    readDefault (ofText ('=' :: (w ++ (t ++ (v ++ r))))) = (t, ofText r) := by
  have clear : trimStart (t ++ (v ++ r)) = t ++ (v ++ r) :=
    trimStart_append (trim_eq_self_iff.1 h.1).1 ne
  have assigned : (ofText ('=' :: (w ++ (t ++ (v ++ r))))).eat? ['='] = some ⟨t ++ (v ++ r)⟩ := by
    rw [ofText_cons rfl, ← List.singleton_append, eat?_append, ofText_blank_append sign,
      ofText_rest clear]
  rw [readDefault, assigned]
  exact readToComma_append h blank stop outside

theorem readDefault_display (h : IsItem t) (stop : StopsAt (· ≠ ',') r)
    (outside : r ≠ [] → Nesting.top.after t = .top) :
    readDefault (ofText ((if t = [] then [] else " = ".toList ++ t) ++ r)) = (t, ofText r) := by
  by_cases empty : t = []
  · rw [if_pos empty, List.nil_append, readDefault_none stop, empty]
  · have spaced : ofText (" = ".toList ++ t ++ r) =
      ofText ('=' :: ([' '] ++ (t ++ ([] ++ r)))) := rfl
    rw [if_neg empty, spaced]
    exact readDefault_assigned h empty (allBlank_cons.2 ⟨rfl, allBlank_nil⟩) allBlank_nil stop
      outside

theorem display_append (p : FunctionParameter) (r : Text) : p.display ++ r =
    p.typeName ++ ' ' :: (p.name ++
      ((if p.defaultValue = [] then [] else " = ".toList ++ p.defaultValue) ++ r)) := by
  simp [FunctionParameter.display, displayEntry]

theorem stopsAt_default (stop : StopsAt (· ≠ ',') r) :
    StopsAt (!endsName ·) ((if t = [] then [] else " = ".toList ++ t) ++ r) := by
  by_cases empty : t = []
  · rw [if_pos empty, List.nil_append]
    intro ch hch
    have comma : ch = ',' := by simpa using stop ch hch
    rw [comma]
    rfl
  · rw [if_neg empty]
    exact stopsAt_cons.2 rfl

theorem readParameter_display (text : Text) (h : p.IsLegible) (stop : StopsAt (· ≠ ',') r)
    (outside : r ≠ [] → Nesting.top.after p.defaultValue = .top) :
    readParameter text ⟨p.display ++ r⟩ = .ok (p, passComma (ofText r)) := by
  have ends := stopsAt_default (t := p.defaultValue) stop
  have default := readDefault_display h.default stop outside
  rw [readParameter_eq_ok, display_append]
  refine ⟨_, _, readQualifiedType_display h ends, readName?_append h.name ends, ?_, ?_⟩
  · rw [default]
  · rw [default]

theorem display_append_clear (h : p.IsLegible) (r : Text) :
    trimStart (p.display ++ r) = p.display ++ r ∧ p.display ++ r ≠ [] := by
  obtain ⟨base, q, type, kind, -⟩ := h.type
  have solid : StopsAt isBlank base ∧ base ≠ [] := by
    obtain ⟨plain, -⟩ | templated := kind
    · exact ⟨plain.solid, plain.1.1⟩
    · exact ⟨templated.solid, templated.ne_nil⟩
  have clear := trimStart_eq_self_iff.2 solid.1
  rw [FunctionParameter.display, displayEntry, type]
  simp only [List.append_assoc]
  exact ⟨trimStart_append clear solid.2, by simp [solid.2]⟩

theorem passComma_separated (blank : AllBlank w) (es : List Text) :
    passComma (ofText (es.flatMap ((',' :: w) ++ ·))) = ofText ((',' :: w).intercalate es) := by
  cases es with
  | nil => rfl
  | cons e es =>
    rw [List.flatMap_cons, intercalate_cons, List.append_assoc, List.cons_append, passComma,
      ofText_cons rfl, ← List.singleton_append, eat?_append, Option.getD_some,
      ofText_blank_append blank]

theorem stopsAt_separated (w : Text) (es : List Text) :
    StopsAt (· ≠ ',') (es.flatMap ((',' :: w) ++ ·)) := by
  cases es with
  | nil => exact stopsAt_nil
  | cons e es => exact stopsAt_cons.2 (by decide)

theorem passComma_entries (es : List Text) :
    passComma (ofText (es.flatMap (", ".toList ++ ·))) = ofText (commaSeparated es) :=
  passComma_separated (allBlank_cons.2 ⟨rfl, allBlank_nil⟩) es

theorem stopsAt_entries (es : List Text) : StopsAt (· ≠ ',') (es.flatMap (", ".toList ++ ·)) :=
  stopsAt_separated [' '] es

theorem readParameters_display {ps : List FunctionParameter} (h : IsLegibleList ps) :
    readParameters text (ofText (commaSeparated (ps.map (·.display)))) = .ok ps := by
  -- Each parameter is read from its own display, and the comma behind it leads to the next.
  induction ps with
  | nil => exact readParameters_of_done rfl
  | cons p ps ih =>
    obtain ⟨legible, outside, rest⟩ := h
    obtain ⟨clear, left⟩ := display_append_clear legible
      ((ps.map (·.display)).flatMap (", ".toList ++ ·))
    have first := readParameter_display text legible (stopsAt_entries (ps.map (·.display)))
      fun more => outside (by
        rintro rfl
        exact more rfl)
    rw [List.map_cons, commaSeparated_cons, ofText_rest clear, readParameters_of_read left first,
      passComma_entries, ih rest]
    rfl

theorem isPlain_append_text (h : IsPlain t) (noConst : q.isConst = false) :
    IsPlain (t ++ q.text) := by
  have marks : q.text ⊆ "&.".toList := by
    rw [Qualifiers.text, noConst]
    cases q.isReference <;> cases q.isPack <;> decide
  refine ⟨⟨?_, ?_⟩, ?_⟩
  · simp [h.1.1]
  · intro ch hch
    rw [List.mem_append] at hch
    refine hch.elim (h.1.2 ch) fun mem => ?_
    have mark : ch = '&' ∨ ch = '.' := by simpa using marks mem
    rcases mark with rfl | rfl <;> rfl
  · rw [List.mem_append]
    exact fun mem => mem.elim h.2 fun mem => absurd (marks mem) (by decide)

theorem readDefault_spec (clear : c.IsClear) : IsItem (readDefault c).1 ∧
    ((readDefault c).2.rest ≠ [] → Nesting.top.after (readDefault c).1 = .top) ∧
    (readDefault c).2.IsClear := by
  unfold readDefault
  split
  · rename_i e found
    obtain ⟨item, outside⟩ := readToComma_spec (isClear_of_eat? found)
    exact ⟨item, outside, isClear_ofText _⟩
  · exact ⟨isItem_nil, fun _ => rfl, clear⟩

theorem isClear_passComma (clear : c.IsClear) : (passComma c).IsClear := by
  rw [passComma]
  cases found : c.eat? [','] with
  | none => exact clear
  | some e => exact isClear_of_eat? found

theorem passComma_rest (h : c.rest = []) : (passComma c).rest = [] := by
  have absent : c.eat? [','] = none := by
    apply eat?_eq_none
    rw [h]
    simp
  rw [passComma, absent]
  exact h

theorem readParameter_spec (clear : c.IsClear) (left : c.rest ≠ [])
    (h : readParameter text c = .ok (p, d)) :
    (∃ base q, p.typeName = base ++ Qualifiers.text q ∧ (IsPlain base ∨ IsTemplated base) ∧
      q.EndAt p.name) ∧
    IsName p.name ∧ IsItem p.defaultValue ∧
    (d.rest ≠ [] → Nesting.top.after p.defaultValue = .top) ∧ d.IsClear := by
  obtain ⟨behindType, behindName, typed, name, value, rfl⟩ := readParameter_eq_ok.1 h
  obtain ⟨base, behindBase, q, type, qualifiers, typeName⟩ := readQualifiedType_eq_ok.1 typed
  obtain ⟨isName, r, rest, stop, rfl⟩ := readName?_spec name
  obtain ⟨item, outside, clear'⟩ := readDefault_spec (isClear_ofText r)
  have ends := readQualifiers_endAt qualifiers
  rw [rest] at ends
  rw [value]
  refine ⟨⟨base, q, typeName, isPlain_or_isTemplated clear left type, ends.of_append stop⟩,
    isName, item, ?_, isClear_passComma clear'⟩
  exact fun more => outside fun none => more (passComma_rest none)

theorem isLegible_of_readParameter (clear : c.IsClear) (left : c.rest ≠ [])
    (h : readParameter text c = .ok (p, d))
    (named : IsPlain p.typeName → ¬ BeginsQualified p.name) :
    p.IsLegible ∧ (d.rest ≠ [] → Nesting.top.after p.defaultValue = .top) ∧ d.IsClear := by
  obtain ⟨⟨base, q, typeName, kind, ends⟩, isName, item, outside, clear'⟩ :=
    readParameter_spec clear left h
  refine ⟨⟨?_, isName, item⟩, outside, clear'⟩
  obtain plain | templated := kind
  · by_cases isConst : q.isConst = true
    · exact ⟨base, q, typeName, Or.inl ⟨plain, Or.inl isConst⟩, ends⟩
    · have whole := isPlain_append_text plain (Bool.not_eq_true _ ▸ isConst)
      rw [← typeName] at whole
      refine ⟨p.typeName, .none, ?_, Or.inl ⟨whole, Or.inr rfl⟩,
        Qualifiers.none.endAt (named whole)⟩
      exact (List.append_nil _).symm
  · exact ⟨base, q, typeName, Or.inr templated, ends⟩

theorem rest_ne_nil_of_readParameters {ps : List FunctionParameter}
    (h : readParameters text c = .ok ps) (more : ps ≠ []) : c.rest ≠ [] := by
  intro none
  rw [readParameters_of_done none] at h
  cases h
  exact more rfl

theorem isLegibleList_of_readParameters {ps : List FunctionParameter} (clear : c.IsClear)
    (h : readParameters text c = .ok ps)
    (named : ∀ p ∈ ps, IsPlain p.typeName → ¬ BeginsQualified p.name) : IsLegibleList ps := by
  fun_induction readParameters text c generalizing ps with
  | case1 c done =>
    cases h
    trivial
  | case2 c left e fault => cases h
  | case3 c left p d read ih =>
    obtain ⟨rest, below, rfl⟩ := map_eq_ok_iff.1 h
    obtain ⟨legible, outside, clear'⟩ :=
      isLegible_of_readParameter clear left read (named p List.mem_cons_self)
    exact ⟨legible, fun more => outside (rest_ne_nil_of_readParameters below more),
      ih clear' below fun p' hp' => named p' (List.mem_cons_of_mem p hp')⟩

theorem readParameterList_display {ps : List FunctionParameter}
    (h : readParameterList text = .ok ps)
    (named : ∀ p ∈ ps, IsPlain p.typeName → ¬ BeginsQualified p.name) :
    readParameterList (commaSeparated (ps.map (·.display))) = .ok ps :=
  readParameters_display (isLegibleList_of_readParameters (isClear_ofText text) h named)

end HeaderForge
