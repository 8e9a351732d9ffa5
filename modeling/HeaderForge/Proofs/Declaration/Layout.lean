import HeaderForge.Proofs.Declaration.Parameter

/-! Parameter lists in any spacing. A parameter is a type, its qualifiers, a name and perhaps a
default. However many blanks stand between these and around the commas, the same parameters are
read, provided that a blank keeps apart what would otherwise be one word: a type that is a word
from what follows it, and `const` from the name. -/

namespace HeaderForge

open Text Cursor

variable {q : Qualifiers} {base name source r w : Text}

structure ParameterParts where
  base : Text
  qualifiers : Qualifiers
  name : Text
  default : Option Text

/-- What stands in front of a parameter and behind each of its parts. -/
structure Spacing extends Gaps where
  front : Text
  base : Text
  name : Text
  sign : Text
  default : Text

namespace ParameterParts

variable {x : ParameterParts} {s : Spacing}

def parameter (x : ParameterParts) : FunctionParameter :=
  ⟨x.base ++ x.qualifiers.text, x.name, x.default.getD []⟩

def assignment (x : ParameterParts) (s : Spacing) : Text :=
  match x.default with
  | none => []
  | some v => '=' :: (s.sign ++ (v ++ s.default))

def text (x : ParameterParts) (s : Spacing) : Text :=
  s.front ++ (x.base ++ (s.base ++ (x.qualifiers.spread s.toGaps ++
    (x.name ++ (s.name ++ x.assignment s)))))

end ParameterParts

/-- A text that a list can hold as a default. It has as many openers as closers of each bracket, and
no comma stands where the same is true of the text before it. -/
structure IsValue (v : Text) : Prop where
  nonempty : v ≠ []
  trimmed : trim v = v
  level : Nesting.IsLevel v
  undivided : ∀ t r, v = t ++ ',' :: r → ¬ Nesting.IsLevel t

/-- The parts of which a list can be made. The base is a word without `<`, or a front without blanks
and a balanced list in angle brackets; the name is made of letters, digits and underscores. -/
structure ParameterParts.IsProper (x : ParameterParts) : Prop where
  base : IsPlain x.base ∨ IsTemplated x.base
  name : x.name ≠ [] ∧ ∀ ch ∈ x.name, isWordChar ch = true
  notConst : x.name ≠ "const".toList
  default : ∀ v ∈ x.default, IsValue v

def Spacing.beforeName (s : Spacing) (q : Qualifiers) : Text :=
  if q.isPack then s.pack
  else if q.isReference then s.reference
  else if q.isConst then s.const
  else s.base

/-- The spacings in which parts are told apart. Behind a word stands a blank or, where `&` or `...`
follows directly, the blank may stand in front of the name instead. -/
structure Spacing.Separates (s : Spacing) (x : ParameterParts) : Prop where
  gaps : s.AreBlank
  front : AllBlank s.front
  base : AllBlank s.base
  name : AllBlank s.name
  sign : AllBlank s.sign
  default : AllBlank s.default
  plain : IsPlain x.base → s.base ≠ [] ∨
    x.qualifiers.isConst = false ∧ (x.qualifiers.isReference ∨ x.qualifiers.isPack) ∧
      s.beforeName x.qualifiers ≠ []
  const : x.qualifiers.isConst → ¬ x.qualifiers.isReference → ¬ x.qualifiers.isPack →
    s.const ≠ []

theorem isName_of_isWordChar (ne : name ≠ []) (word : ∀ ch ∈ name, isWordChar ch = true) :
    IsName name := by
  refine ⟨ne, fun ch mem => ?_⟩
  by_contra ends
  have stops := isWordChar_of_endsName (Bool.not_eq_false _ ▸ ends)
  rw [word ch mem] at stops
  cases stops

theorem not_beginsQualified_of_isWordChar (word : ∀ ch ∈ name, isWordChar ch = true)
    (notConst : name ≠ "const".toList) : ¬ BeginsQualified name := by
  have mark {ch : Char} {t : Text} (outside : isWordChar ch = false) : ¬ ch :: t <+: name := by
    intro front
    rw [word ch (front.subset List.mem_cons_self)] at outside
    cases outside
  rintro (front | front | ⟨r, rfl, stop⟩)
  · exact mark (by decide +kernel) front
  · exact mark (by decide +kernel) front
  · cases r with
    | nil => exact notConst (List.append_nil _)
    | cons ch r =>
      have ended := stopsAt_cons.1 stop
      rw [word ch (by simp)] at ended
      cases ended

theorem ParameterParts.IsProper.isName {x : ParameterParts} (h : x.IsProper) : IsName x.name :=
  isName_of_isWordChar h.name.1 h.name.2

theorem readQualifiedType_spread {g : Gaps} (blank : g.AreBlank) (gap : AllBlank w)
    (kind : IsPlain base ∧ w ≠ [] ∨ IsTemplated base) (isName : IsName name)
    (unqualified : ¬ BeginsQualified name) (stop : StopsAt (!endsName ·) r)
    (word : q.isConst = true → q.isReference = false → q.isPack = false → g.const ≠ []) :
    readQualifiedType ⟨base ++ (w ++ (q.spread g ++ (name ++ r)))⟩ =
      .ok (base ++ q.text, ⟨name ++ r⟩) := by
  have clear : ofText (name ++ r) = ⟨name ++ r⟩ :=
    ofText_rest (trimStart_append (trimStart_eq_self_iff.2 isName.solid) isName.1)
  have stopsWord {v : Text} (ne : v ≠ []) (blank : AllBlank v) (t : Text) :
      StopsAt (!isBlank ·) (v ++ t) := by
    obtain ⟨ch, v, rfl⟩ := List.exists_cons_of_ne_nil ne
    exact stopsAt_cons.2 (by rw [(allBlank_cons.1 blank).1]; rfl)
  have type : readType ⟨base ++ (w ++ (q.spread g ++ (name ++ r)))⟩ =
      .ok (base, ofText (w ++ (q.spread g ++ (name ++ r)))) := by
    obtain ⟨plain, ne⟩ | templated := kind
    · exact readType_plain plain (stopsWord ne gap _)
    · exact readType_templated templated _
  have ends : q.EndAt (ofText (name ++ r)).rest := by
    rw [clear]
    exact (q.endAt unqualified).append stop
  have qualifiers : readQualifiers (ofText (w ++ (q.spread g ++ (name ++ r)))) =
      (q, ⟨name ++ r⟩) := by
    rw [ofText_blank_append gap, readQualifiers_spread blank ends, clear]
    intro const reference pack ch hch
    have front := stopsWord (word const reference pack) blank.const (name ++ r) ch hch
    exact isWordChar_of_isBlank (by simpa using front)
  exact readQualifiedType_eq_ok.2 ⟨base, _, q, type, qualifiers, rfl⟩

theorem readQualifiedType_attached {g : Gaps} (blank : g.AreBlank) (plain : IsPlain base)
    (noConst : q.isConst = false) (some : q.isReference = true ∨ q.isPack = true)
    (gap : (if q.isPack then g.pack else g.reference) ≠ []) (isName : IsName name)
    (unqualified : ¬ BeginsQualified name) (stop : StopsAt (!endsName ·) r) :
    readQualifiedType ⟨base ++ (q.spread g ++ (name ++ r))⟩ =
      .ok (base ++ q.text, ⟨name ++ r⟩) := by
  have read (first behind : Qualifiers) (noConst : first.isConst = false)
      (noConst' : behind.isConst = false) {w : Text} (blank' : AllBlank w) (ne : w ≠ []) :
      readQualifiedType ⟨base ++ (first.text ++ (w ++ (behind.spread g ++ (name ++ r))))⟩ =
        .ok (base ++ (first.text ++ behind.text), ⟨name ++ r⟩) := by
    have whole := readQualifiedType_spread (q := behind) blank blank'
      (Or.inl ⟨isPlain_append_text plain noConst, ne⟩) isName unqualified stop
      fun const => absurd const (by simp [noConst'])
    simpa only [List.append_assoc] using whole
  obtain ⟨isConst, isReference, isPack⟩ := q
  cases noConst
  cases isReference with
  | false =>
    cases isPack with
    | false => simp at some
    | true =>
      have pack := read ⟨false, false, true⟩ .none rfl rfl blank.pack gap
      simpa [Qualifiers.spread, Qualifiers.text, Qualifiers.none] using pack
  | true =>
    cases isPack with
    | false =>
      have reference := read ⟨false, true, false⟩ .none rfl rfl blank.reference gap
      simpa [Qualifiers.spread, Qualifiers.text, Qualifiers.none] using reference
    | true =>
      by_cases joined : g.reference = []
      · have both := read ⟨false, true, true⟩ .none rfl rfl blank.pack gap
        simpa [Qualifiers.spread, Qualifiers.text, Qualifiers.none, joined] using both
      · have reference := read ⟨false, true, false⟩ ⟨false, false, true⟩ rfl rfl
          blank.reference joined
        simpa [Qualifiers.spread, Qualifiers.text] using reference

section Parameter

variable {x : ParameterParts} {s : Spacing}

theorem stopsAt_assignment (blank : AllBlank s.name) (stop : StopsAt (· ≠ ',') r) :
    StopsAt (!endsName ·) (s.name ++ (x.assignment s ++ r)) := by
  have solid (ch : Char) (hch : isBlank ch = true) : (!endsName ch) = false := by
    simp [endsName, hch]
  refine stopsAt_blank_append solid blank ?_
  cases assigned : x.default with
  | none =>
    rw [ParameterParts.assignment, assigned, List.nil_append]
    intro ch hch
    have comma : ch = ',' := by simpa using stop ch hch
    rw [comma]
    rfl
  | some v =>
    rw [ParameterParts.assignment, assigned]
    exact stopsAt_cons.2 rfl

theorem IsValue.isItem {v : Text} (h : IsValue v) : IsItem v ∧ Nesting.top.after v = .top := by
  refine ⟨⟨h.trimmed, ?_⟩, Nesting.after_top_eq_top_iff.2 h.level⟩
  rw [Nesting.upToComma_eq_self_iff]
  intro t r split outside
  exact h.undivided t r split (Nesting.after_top_eq_top_iff.1 outside)

theorem readDefault_assignment (h : x.IsProper) (blank : s.Separates x)
    (stop : StopsAt (· ≠ ',') r) :
    readDefault (ofText (s.name ++ (x.assignment s ++ r))) = (x.default.getD [], ofText r) := by
  rw [ofText_blank_append blank.name]
  cases assigned : x.default with
  | none =>
    rw [ParameterParts.assignment, assigned]
    exact readDefault_none stop
  | some v =>
    have value := h.default v assigned
    obtain ⟨item, outside⟩ := value.isItem
    have text : x.assignment s ++ r = '=' :: (s.sign ++ (v ++ (s.default ++ r))) := by
      rw [ParameterParts.assignment, assigned]
      simp only [List.cons_append, List.append_assoc]
    rw [text]
    exact readDefault_assigned item value.nonempty blank.sign blank.default stop
      fun _ => outside

theorem readQualifiedType_text (h : x.IsProper) (apart : s.Separates x)
    (stop : StopsAt (!endsName ·) r) :
    readQualifiedType ⟨x.base ++ (s.base ++ (x.qualifiers.spread s.toGaps ++ (x.name ++ r)))⟩ =
      .ok (x.base ++ x.qualifiers.text, ⟨x.name ++ r⟩) := by
  have unqualified := not_beginsQualified_of_isWordChar h.name.2 h.notConst
  by_cases spaced : IsPlain x.base ∧ s.base ≠ [] ∨ IsTemplated x.base
  · exact readQualifiedType_spread apart.gaps apart.base spaced h.isName unqualified stop
      fun const reference pack => apart.const const (by simp [reference]) (by simp [pack])
  · rw [not_or, not_and_not_right] at spaced
    have plain := h.base.resolve_right spaced.2
    obtain ⟨noConst, some, gap⟩ := (apart.plain plain).resolve_left fun ne => ne (spaced.1 plain)
    have before : (if x.qualifiers.isPack then s.pack else s.reference) ≠ [] := by
      rw [Spacing.beforeName] at gap
      split at gap
      · rename_i pack
        rwa [if_pos pack]
      · rename_i noPack
        rw [if_pos (some.resolve_right noPack)] at gap
        rwa [if_neg noPack]
    rw [spaced.1 plain, List.nil_append]
    exact readQualifiedType_attached apart.gaps plain noConst some before h.isName unqualified stop

theorem ParameterParts.IsProper.base_ne_nil (h : x.IsProper) : x.base ≠ [] := by
  obtain plain | templated := h.base
  · exact plain.1.1
  · exact templated.ne_nil

theorem ofText_text (h : x.IsProper) (blank : AllBlank s.front) :
    ofText (x.text s ++ r) = ⟨x.base ++ (s.base ++ (x.qualifiers.spread s.toGaps ++
      (x.name ++ (s.name ++ (x.assignment s ++ r)))))⟩ := by
  have solid : StopsAt isBlank x.base := h.base.elim IsPlain.solid IsTemplated.solid
  simp only [ParameterParts.text, List.append_assoc]
  rw [ofText_blank_append blank]
  exact ofText_rest (trimStart_append (trimStart_eq_self_iff.2 solid) h.base_ne_nil)

theorem readParameter_text (source : Text) (h : x.IsProper) (apart : s.Separates x)
    (stop : StopsAt (· ≠ ',') r) :
    readParameter source (ofText (x.text s ++ r)) = .ok (x.parameter, passComma (ofText r)) := by
  have ends := stopsAt_assignment (x := x) apart.name stop
  have default := readDefault_assignment h apart stop
  rw [readParameter_eq_ok, ofText_text h apart.front]
  refine ⟨_, _, readQualifiedType_text h apart ends, readName?_append h.isName ends, ?_, ?_⟩
  · rw [default]
    rfl
  · rw [default]

end Parameter

theorem readParameters_layout {xs : List (ParameterParts × Spacing)}
    (proper : ∀ x ∈ xs, x.1.IsProper) (apart : ∀ x ∈ xs, x.2.Separates x.1) :
    readParameters source (ofText ([','].intercalate (xs.map fun x => x.1.text x.2))) =
      .ok (xs.map (·.1.parameter)) := by
  -- Each parameter is read from its own text, and the comma behind it leads to the next.
  induction xs with
  | nil => exact readParameters_of_done rfl
  | cons x xs ih =>
    obtain ⟨proper, properRest⟩ := List.forall_mem_cons.1 proper
    obtain ⟨apart, apartRest⟩ := List.forall_mem_cons.1 apart
    have stop := stopsAt_separated [] (xs.map fun x => x.1.text x.2)
    have first := readParameter_text source proper apart stop
    have left : (ofText (x.1.text x.2 ++
        (xs.map fun x => x.1.text x.2).flatMap ([','] ++ ·))).rest ≠ [] := by
      rw [ofText_text proper apart.front]
      simp [proper.base_ne_nil]
    rw [List.map_cons, intercalate_cons, readParameters_of_read left first,
      passComma_separated allBlank_nil, ih properRest apartRest]
    rfl

/-- A list of parameters is read as those parameters in every spacing that keeps their parts
apart. -/
theorem readParameterList_layout (xs : List (ParameterParts × Spacing))
    (proper : ∀ x ∈ xs, x.1.IsProper) (apart : ∀ x ∈ xs, x.2.Separates x.1) :
    readParameterList ([','].intercalate (xs.map fun x => x.1.text x.2)) =
      .ok (xs.map (·.1.parameter)) := readParameters_layout proper apart

theorem readParameterList_layout_mixed :
    readParameterList
        "\tA<B<3>, C>const&...größe=f(1, 2)\u3000,int&...\u2003xs ,T const\tx".toList =
      .ok [⟨"A<B<3>, C> const&...".toList, "größe".toList, "f(1, 2)".toList⟩,
        ⟨"int&...".toList, "xs".toList, []⟩, ⟨"T const".toList, ['x'], []⟩] := by
  have value : IsValue "f(1, 2)".toList := by
    refine ⟨by decide, by decide, by decide, fun t r split level => ?_⟩
    have whole : Nesting.top.upToComma "f(1, 2)".toList = "f(1, 2)".toList := by decide
    exact Nesting.upToComma_eq_self_iff.1 whole t r split (Nesting.after_top_eq_top_iff.2 level)
  have first : ParameterParts.IsProper ⟨"A<B<3>, C>".toList, ⟨true, true, true⟩, "größe".toList,
      some "f(1, 2)".toList⟩ := by
    refine ⟨Or.inr ⟨['A'], "B<3>, C".toList, rfl, ?_, by decide, rfl⟩, ⟨by decide, ?_⟩,
      by decide, ?_⟩
    · exact List.forall_mem_singleton.2 rfl
    · exact List.all_eq_true.1 (by decide +kernel)
    · rintro v ⟨⟩
      exact value
  have second : ParameterParts.IsProper ⟨"int".toList, ⟨false, true, true⟩, "xs".toList, none⟩ :=
    ⟨Or.inl (by decide), ⟨by decide, List.all_eq_true.1 (by decide +kernel)⟩, by decide, nofun⟩
  have third : ParameterParts.IsProper ⟨['T'], ⟨true, false, false⟩, ['x'], none⟩ :=
    ⟨Or.inl (by decide), ⟨by decide, List.all_eq_true.1 (by decide +kernel)⟩, by decide, nofun⟩
  have apart : Spacing.Separates ⟨⟨[], [], []⟩, ['\t'], [], [], [], ['\u3000']⟩
      ⟨"A<B<3>, C>".toList, ⟨true, true, true⟩, "größe".toList, some "f(1, 2)".toList⟩ :=
    ⟨⟨by decide, by decide, by decide⟩, by decide, by decide, by decide, by decide, by decide,
      fun plain => absurd plain.2 (by decide), by decide⟩
  have apart' : Spacing.Separates ⟨⟨[], [], ['\u2003']⟩, [], [], [' '], [], []⟩
      ⟨"int".toList, ⟨false, true, true⟩, "xs".toList, none⟩ :=
    ⟨⟨by decide, by decide, by decide⟩, by decide, by decide, by decide, by decide, by decide,
      fun _ => by decide, by decide⟩
  have apart'' : Spacing.Separates ⟨⟨['\t'], [], []⟩, [], [' '], [], [], []⟩
      ⟨['T'], ⟨true, false, false⟩, ['x'], none⟩ :=
    ⟨⟨by decide, by decide, by decide⟩, by decide, by decide, by decide, by decide, by decide,
      fun _ => by decide, by decide⟩
  have read := readParameterList_layout [(_, _), (_, _), (_, _)]
    (by simpa using ⟨first, second, third⟩) (by simpa using ⟨apart, apart', apart''⟩)
  exact read

end HeaderForge
