import HeaderForge.Proofs.Bracket.Nesting
import HeaderForge.Proofs.Cursor.Passage

/-! What the readers of a cursor take. A type is a word without `<`, or a front without blanks and
a balanced list in angle brackets; a name ends where its stop stands; a default ends at the comma
that stands outside all brackets. Wherever such a text stands, with its stop behind it, the reader
takes it, and nothing else is ever taken. -/

namespace HeaderForge

open Text

def blankCodes : List Nat :=
  [0x9, 0xA, 0xB, 0xC, 0xD, 0x20, 0x85, 0xA0, 0x1680, 0x2000, 0x2001, 0x2002, 0x2003, 0x2004,
    0x2005, 0x2006, 0x2007, 0x2008, 0x2009, 0x200A, 0x2028, 0x2029, 0x202F, 0x205F, 0x3000]

theorem mem_blankCodes {c : Char} (h : isBlank c = true) : c.toNat ∈ blankCodes := by
  simp only [isBlank, Bool.or_eq_true, Bool.and_eq_true, decide_eq_true_eq, beq_iff_eq] at h
  simp only [blankCodes, List.mem_cons, List.not_mem_nil]
  omega

theorem isWordChar_of_isBlank {c : Char} (h : isBlank c = true) : isWordChar c = false := by
  have none : ∀ n ∈ blankCodes, isWordChar (Char.ofNat n) = false := by decide +kernel
  have code := none c.toNat (mem_blankCodes h)
  rwa [Char.ofNat_toNat] at code

theorem isWordChar_of_endsName {c : Char} (h : Cursor.endsName c = true) :
    isWordChar c = false := by
  simp only [Cursor.endsName, Bool.or_eq_true, beq_iff_eq] at h
  rcases h with (blank | rfl) | rfl
  · exact isWordChar_of_isBlank blank
  · decide +kernel
  · decide +kernel

namespace Cursor

variable {c d : Cursor} {s t r w : Text}

def IsClear (c : Cursor) : Prop := trimStart c.rest = c.rest

theorem isClear_ofText (t : Text) : (ofText t).IsClear := trimStart_trimStart t

theorem isClear_of_eat? (h : c.eat? t = some d) : d.IsClear := by
  rw [eat?] at h
  split at h
  · cases h
    exact isClear_ofText _
  · cases h

theorem isClear_of_eatWord? (h : c.eatWord? t = some d) : d.IsClear := by
  rw [eatWord?] at h
  split at h
  · cases h
    exact isClear_ofText _
  · cases h

theorem isClear_of_readType (h : c.readType = .ok (t, d)) : d.IsClear := by
  obtain ⟨n, -, -, rfl⟩ := readType_eq_ok.1 h
  exact isClear_ofText _

theorem isClear_of_readName? (h : c.readName? = some (t, d)) : d.IsClear := by
  rw [readName?] at h
  split at h
  · cases h
  · cases h
    exact isClear_ofText _

theorem ofText_rest (h : trimStart t = t) : ofText t = ⟨t⟩ := by
  rw [ofText, h]

theorem ofText_blank_cons {ch : Char} (h : isBlank ch = true) (t : Text) :
    ofText (ch :: t) = ofText t := by
  rw [ofText, ofText, trimStart_cons_blank h]

theorem ofText_blank_append (h : AllBlank w) (t : Text) : ofText (w ++ t) = ofText t := by
  rw [ofText, ofText, trimStart_append_blank h]

theorem ofText_cons {ch : Char} (h : isBlank ch = false) (t : Text) :
    ofText (ch :: t) = ⟨ch :: t⟩ := by
  rw [ofText, trimStart_eq_self h]

theorem advance_append (s r : Text) : (⟨s ++ r⟩ : Cursor).advance s.length = ofText r := by
  rw [advance, List.drop_left]

theorem eat?_append (t r : Text) : (⟨t ++ r⟩ : Cursor).eat? t = some (ofText r) := by
  have front : t.isPrefixOf (t ++ r) = true := by simp
  rw [eat?, if_pos front, advance_append]

theorem eat?_eq_none (h : ¬ t <+: c.rest) : c.eat? t = none := by
  rw [eat?, if_neg]
  rwa [List.isPrefixOf_iff_prefix]

/-- A text begins with the word `t`, and no character behind it continues the word. -/
def BeginsWith (t s : Text) : Prop := ∃ r, s = t ++ r ∧ StopsAt isWordChar r

theorem stopsAt_isWordChar_iff : StopsAt isWordChar r ↔ r.head?.any isWordChar = false := by
  rw [Option.any_eq_false]
  simp [StopsAt]

theorem eatWord?_append (h : StopsAt isWordChar r) :
    (⟨t ++ r⟩ : Cursor).eatWord? t = some (ofText r) := by
  have stops := stopsAt_isWordChar_iff.1 h
  rw [eatWord?, if_pos, advance_append]
  simp [stops]

theorem beginsWith_iff : BeginsWith t s ↔
    (t.isPrefixOf s && !(s.drop t.length).head?.any isWordChar) = true := by
  rw [Bool.and_eq_true, List.isPrefixOf_iff_prefix, Bool.not_eq_true']
  constructor
  · rintro ⟨r, rfl, stop⟩
    rw [List.drop_left]
    exact ⟨List.prefix_append t r, stopsAt_isWordChar_iff.1 stop⟩
  · rintro ⟨⟨r, rfl⟩, stop⟩
    rw [List.drop_left] at stop
    exact ⟨r, rfl, stopsAt_isWordChar_iff.2 stop⟩

instance (t s : Text) : Decidable (BeginsWith t s) := decidable_of_iff _ beginsWith_iff.symm

theorem eatWord?_eq_none (h : ¬ BeginsWith t c.rest) : c.eatWord? t = none := by
  rw [eatWord?, if_neg]
  rwa [beginsWith_iff] at h

theorem not_prefix_of_eat? (h : c.eat? t = none) : ¬ t <+: c.rest := by
  rintro ⟨r, split⟩
  have found := eat?_append t r
  rw [split] at found
  rw [h] at found
  cases found

theorem not_beginsWith_of_eatWord? (h : c.eatWord? t = none) : ¬ BeginsWith t c.rest := by
  rintro ⟨r, split, stop⟩
  have found := eatWord?_append (t := t) stop
  rw [← split] at found
  rw [h] at found
  cases found

def IsPlain (t : Text) : Prop := IsWord t ∧ '<' ∉ t

instance (t : Text) : Decidable (IsPlain t) := inferInstanceAs (Decidable (_ ∧ _))

/-- A front without blanks and a list in angle brackets that closes at the end. -/
def IsTemplated (t : Text) : Prop :=
  ∃ front inside, t = front ++ '<' :: (inside ++ ['>']) ∧ (∀ ch ∈ front, isBlank ch = false) ∧
    '<' ∉ front ∧ Balanced '<' '>' inside

theorem IsPlain.solid (h : IsPlain t) : StopsAt isBlank t :=
  fun ch hch => h.1.2 ch (List.mem_of_mem_head? hch)

theorem IsTemplated.solid (h : IsTemplated t) : StopsAt isBlank t := by
  obtain ⟨front, inside, rfl, solid, -⟩ := h
  cases front with
  | nil => exact stopsAt_cons.2 rfl
  | cons ch front => exact stopsAt_cons.2 (solid ch List.mem_cons_self)

theorem IsTemplated.ne_nil (h : IsTemplated t) : t ≠ [] := by
  obtain ⟨front, inside, rfl, -⟩ := h
  simp

theorem readType_plain (h : IsPlain t) (stop : StopsAt (!isBlank ·) r) :
    (⟨t ++ r⟩ : Cursor).readType = .ok (t, ofText r) := by
  have token : (t ++ r).takeWhile (!isBlank ·) = t := by
    apply takeWhile_append_stop _ stop
    intro ch hch
    simp [h.1.2 ch hch]
  rw [readType_eq_ok]
  refine ⟨t.length, ?_, ?_, ?_⟩
  · rw [typeLength]
    simp only [token]
    rw [if_neg h.2]
  · rw [List.take_left]
  · rw [advance_append]

theorem readType_templated (h : IsTemplated t) (r : Text) :
    (⟨t ++ r⟩ : Cursor).readType = .ok (t, ofText r) := by
  obtain ⟨front, inside, rfl, solid, mark, balanced⟩ := h
  let e : Enclosed := ⟨front, inside, r⟩
  have whole : front ++ '<' :: (inside ++ ['>']) ++ r = e.text := by simp [e, Enclosed.text]
  have cut : Enclosed.ofText? e.text = some e :=
    Enclosed.ofText?_eq_some_iff.2 ⟨rfl, mark, balanced⟩
  have token : '<' ∈ e.text.takeWhile (!isBlank ·) := by
    have pass : ∀ ch ∈ front, (!isBlank ch) = true := by
      intro ch hch
      simp [solid ch hch]
    rw [Enclosed.text, List.takeWhile_append_of_pos pass, List.takeWhile_cons_of_pos (by rfl)]
    simp
  have size : (front ++ '<' :: (inside ++ ['>'])).length = front.length + inside.length + 2 := by
    simp only [List.length_append, List.length_cons, List.length_nil]
    omega
  rw [readType_eq_ok]
  refine ⟨front.length + inside.length + 2, ?_, ?_, ?_⟩
  · change typeLength (front ++ '<' :: (inside ++ ['>']) ++ r) = _
    rw [whole, typeLength]
    simp only [cut]
    rw [if_pos token]
  · rw [← size, List.take_left]
  · rw [← size, advance_append]

theorem isPlain_or_isTemplated (clear : c.IsClear) (left : c.rest ≠ [])
    (h : c.readType = .ok (t, d)) : IsPlain t ∨ IsTemplated t := by
  obtain ⟨n, length, rfl, rfl⟩ := readType_eq_ok.1 h
  rw [typeLength] at length
  split at length
  · rename_i mark
    split at length
    · rename_i e cut
      cases length
      obtain ⟨whole, front, balanced⟩ := Enclosed.ofText?_eq_some_iff.1 cut
      right
      refine ⟨e.before, e.inside, ?_, ?_, front, balanced⟩
      · have split : c.rest = (e.before ++ '<' :: (e.inside ++ ['>'])) ++ e.after := by
          rw [whole]
          simp [Enclosed.text]
        rw [split, List.take_left']
        simp only [List.length_append, List.length_cons, List.length_nil]
        omega
      · rw [whole, Enclosed.text] at mark
        intro ch hch
        simpa using passes_of_mem_takeWhile mark front ch hch
    · cases length
  · rename_i mark
    cases length
    left
    have token := List.prefix_iff_eq_take.1 (List.takeWhile_prefix (l := c.rest) (!isBlank ·))
    rw [← token]
    exact ⟨(front_spec clear left).1, mark⟩

def IsName (t : Text) : Prop := t ≠ [] ∧ ∀ ch ∈ t, endsName ch = false

theorem IsName.solid (h : IsName t) : StopsAt isBlank t := by
  intro ch hch
  have stays := h.2 ch (List.mem_of_mem_head? hch)
  rw [endsName, Bool.or_eq_false_iff, Bool.or_eq_false_iff] at stays
  exact stays.1.1

theorem readName?_append (h : IsName t) (stop : StopsAt (!endsName ·) r) :
    (⟨t ++ r⟩ : Cursor).readName? = some (t, ofText r) := by
  have name : (t ++ r).takeWhile (!endsName ·) = t := by
    apply takeWhile_append_stop _ stop
    intro ch hch
    simp [h.2 ch hch]
  rw [readName?]
  simp only [name]
  split
  · exact absurd rfl h.1
  · rw [advance_append]

theorem readName?_spec (h : c.readName? = some (t, d)) :
    IsName t ∧ ∃ r, c.rest = t ++ r ∧ StopsAt (!endsName ·) r ∧ d = ofText r := by
  rw [readName?] at h
  split at h
  · cases h
  · rename_i name ne
    cases h
    refine ⟨⟨ne, ?_⟩, c.rest.dropWhile (!endsName ·), ?_, stopsAt_dropWhile _ _, ?_⟩
    · intro ch hch
      simpa using List.mem_takeWhile_imp hch
    · rw [List.takeWhile_append_dropWhile]
    · have split := List.takeWhile_append_dropWhile (p := (!endsName ·)) (l := c.rest)
      have passed := advance_append (c.rest.takeWhile (!endsName ·))
        (c.rest.dropWhile (!endsName ·))
      rwa [split] at passed

/-- A text without blanks at its ends in which no comma separates. -/
def IsItem (t : Text) : Prop := trim t = t ∧ Nesting.top.upToComma t = t

theorem isItem_nil : IsItem [] := ⟨rfl, rfl⟩

theorem readToComma_append (h : IsItem t) (blank : AllBlank w) (stop : StopsAt (· ≠ ',') r)
    (outside : r ≠ [] → Nesting.top.after t = .top) :
    (⟨t ++ (w ++ r)⟩ : Cursor).readToComma = (t, ofText r) := by
  have value : Nesting.top.upToComma (t ++ (w ++ r)) = t ++ w := by
    rw [Nesting.upToComma_append h.2, Nesting.upToComma_blank_append blank]
    cases r with
    | nil => rw [Nesting.upToComma_nil, List.append_nil]
    | cons ch r =>
      have comma : ch = ',' := by simpa using stopsAt_cons.1 stop
      rw [outside (List.cons_ne_nil ch r), comma, Nesting.upToComma_top_comma, List.append_nil]
  rw [readToComma]
  simp only [value]
  rw [trimEnd_append_blank blank, (trim_eq_self_iff.1 h.1).2, ← List.append_assoc, advance_append]

theorem readToComma_spec (clear : c.IsClear) :
    IsItem c.readToComma.1 ∧
      (c.readToComma.2.rest ≠ [] → Nesting.top.after c.readToComma.1 = .top) := by
  obtain ⟨r, split, again, left⟩ := Nesting.upToComma_spec .top c.rest
  obtain ⟨w, blank, back⟩ := trimEnd_spec (Nesting.top.upToComma c.rest)
  have item : c.readToComma.1 = trimEnd (Nesting.top.upToComma c.rest) := rfl
  have passed : c.readToComma.2 = ofText r := by
    have advanced := advance_append (Nesting.top.upToComma c.rest) r
    rwa [← split] at advanced
  rw [item, passed]
  refine ⟨⟨?_, ?_⟩, ?_⟩
  · rw [trim_eq_self_iff]
    refine ⟨trimStart_trimEnd ?_, trimEnd_trimEnd _⟩
    rw [IsClear, split] at clear
    exact trimStart_of_append clear
  · rw [back] at again
    exact Nesting.upToComma_of_append again
  · intro more
    rcases left with rfl | ⟨outside, -⟩
    · exact absurd rfl more
    · rwa [back, Nesting.after_append_blank blank] at outside

end Cursor
end HeaderForge
