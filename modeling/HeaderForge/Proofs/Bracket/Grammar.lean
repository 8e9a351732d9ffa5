import HeaderForge.Proofs.Bracket.Pairing

/-! The grammar of matching. What stands between a bracket and its partner is nothing, or an item
that is neither bracket, or a pair with such items inside it, each before more of the same. The
search with its one counter finds a closer exactly where the grammar allows it. -/

namespace HeaderForge

/-- What can stand between an opener and its partner. -/
inductive Nested {α : Type} (opener closer : α) : List α → Prop
  | nil : Nested opener closer []
  | other {x : α} {t : List α} : x ≠ opener → x ≠ closer → Nested opener closer t →
      Nested opener closer (x :: t)
  | pair {s t : List α} : Nested opener closer s → Nested opener closer t →
      Nested opener closer (opener :: (s ++ closer :: t))

/-- The place `j` closes the bracket at `start`: a closer stands there, and what stands between the
two is of the grammar. -/
structure Closes {α : Type} (opener closer : α) (l : List α) (start j : Nat) : Prop where
  behind : start < j
  found : l[j]? = some closer
  between : Nested opener closer ((l.take j).drop (start + 1))

section Grammar

variable {α : Type} [DecidableEq α] {opener closer x : α} {l s t : List α} {depth start j k : Nat}

theorem openAfter_pair (ne : opener ≠ closer) (h : Balanced opener closer s) (t : List α) :
    openAfter opener closer depth (opener :: (s ++ closer :: t)) =
      openAfter opener closer depth t := by
  have inside := openAfter_add h (depth + 1)
  rw [Nat.zero_add] at inside
  have closes : bracketStep opener closer (depth + 1) closer = some depth := by
    rw [bracketStep, if_neg (Ne.symm ne), if_pos rfl]
    rfl
  rw [openAfter_cons, bracketStep, if_pos rfl, Option.bind_some, openAfter_append, inside,
    Option.bind_some, openAfter_cons, closes, Option.bind_some]

theorem openAfter_other (notOpener : x ≠ opener) (notCloser : x ≠ closer) (t : List α) :
    openAfter opener closer depth (x :: t) = openAfter opener closer depth t := by
  rw [openAfter_cons, bracketStep, if_neg notOpener, if_neg notCloser, Option.bind_some]

theorem Nested.balanced (ne : opener ≠ closer) (h : Nested opener closer l) :
    Balanced opener closer l := by
  induction h with
  | nil => rfl
  | other notOpener notCloser _ ih => rwa [Balanced, openAfter_other notOpener notCloser]
  | pair _ _ inside behind => rwa [Balanced, openAfter_pair ne inside]

theorem nested_of_balanced (ne : opener ≠ closer) (h : Balanced opener closer l) :
    Nested opener closer l := by
  -- On the length: an opener in front is taken together with its partner.
  induction size : l.length using Nat.strongRecOn generalizing l with
  | ind n ih =>
    cases l with
    | nil => exact .nil
    | cons x t =>
      by_cases front : x = opener
      · subst front
        obtain ⟨m, partner⟩ := Option.ne_none_iff_exists'.1 (allClosed_of_balanced h [] t rfl)
        obtain ⟨s, r, rfl, -, inside⟩ := (closingIndex_eq_some_iff ne).1 partner
        rw [Balanced, openAfter_pair ne inside] at h
        rw [List.length_cons, List.length_append, List.length_cons] at size
        exact .pair (ih s.length (by omega) inside rfl) (ih r.length (by omega) h rfl)
      · have stray : x ≠ closer := by
          rintro rfl
          rw [Balanced, openAfter_cons, (bracketStep_eq_none_iff ne).2 ⟨rfl, rfl⟩] at h
          cases h
        rw [Balanced, openAfter_other front stray] at h
        exact .other front stray (ih t.length (by simp [← size]) h rfl)

theorem closes_iff (ne : opener ≠ closer) : Closes opener closer l start j ↔
    (closingIndex opener closer 0 (l.drop (start + 1))).map (start + 1 + ·) = some j := by
  rw [Option.map_eq_some_iff]
  constructor
  · rintro ⟨behind, found, between⟩
    obtain ⟨inside, rfl⟩ := List.getElem?_eq_some_iff.1 found
    have size : ((l.take j).drop (start + 1)).length = j - (start + 1) := by
      rw [List.length_drop, List.length_take, Nat.min_eq_left inside.le]
    have cut : l.drop (start + 1) = (l.take j).drop (start + 1) ++ l[j] :: l.drop (j + 1) := by
      rw [← List.drop_eq_getElem_cons inside, ← List.drop_append_of_le_length,
        List.take_append_drop]
      rw [List.length_take]
      omega
    exact ⟨j - (start + 1), (closingIndex_eq_some_iff ne).2
      ⟨_, _, cut, size, between.balanced ne⟩, by omega⟩
  · rintro ⟨n, found, rfl⟩
    obtain ⟨s, t, cut, rfl, balanced⟩ := (closingIndex_eq_some_iff ne).1 found
    refine ⟨by omega, ?_, ?_⟩
    · rw [← List.getElem?_drop, cut]
      simp
    · rw [List.drop_take, cut]
      simpa using nested_of_balanced ne balanced

theorem Closes.unique (ne : opener ≠ closer) (h : Closes opener closer l start j)
    (h' : Closes opener closer l start k) : j = k := by
  rw [closes_iff ne] at h h'
  rw [h] at h'
  exact Option.some.inj h'

end Grammar

def bracketBytes : List (UInt8 × UInt8) := [(0x7B, 0x7D), (0x28, 0x29), (0x3C, 0x3E)]

theorem closerOf_eq_some_iff {o c : UInt8} : closerOf o = some c ↔ (o, c) ∈ bracketBytes := by
  unfold closerOf bracketBytes
  grind

theorem closerOf_eq_none_iff {o : UInt8} : closerOf o = none ↔ ∀ b ∈ bracketBytes, o ≠ b.1 := by
  simp only [closerOf, bracketBytes, List.forall_mem_cons]
  grind

section Offset

variable {text : Text} {start : Nat} {b : UInt8 × UInt8}

theorem indexOfClosing_of_bracket (pair : b ∈ bracketBytes) (here : text.utf8[start]? = some b.1) :
    indexOfClosing text start =
      .ok ((closingIndex b.1 b.2 0 (text.utf8.drop (start + 1))).map (start + 1 + ·)) := by
  rw [indexOfClosing]
  simp only [here, closerOf_eq_some_iff.2 pair]

theorem indexOfClosing_eq_error_iff :
    indexOfClosing text start = .error (.invalidBracket start text) ↔
      text.utf8.length ≤ start ∨
        ∃ x, text.utf8[start]? = some x ∧ ∀ b ∈ bracketBytes, x ≠ b.1 := by
  rw [indexOfClosing, ← List.getElem?_eq_none_iff]
  cases text.utf8[start]? with
  | none => simp
  | some x =>
    simp only [reduceCtorEq, false_or, Option.some.injEq, exists_eq_left', ← closerOf_eq_none_iff]
    cases closerOf x with
    | none => simp
    | some closer => simp

end Offset

/-- A search is refused exactly where no bracket stands. It gives the one place that closes the
bracket by the grammar, and gives none exactly if there is no such place. -/
theorem indexOfClosing_nested (text : Text) (start : Nat) :
    (indexOfClosing text start = .error (.invalidBracket start text) ↔
      text.utf8.length ≤ start ∨
        ∃ x, text.utf8[start]? = some x ∧ ∀ b ∈ bracketBytes, x ≠ b.1) ∧
    ∀ b ∈ bracketBytes, text.utf8[start]? = some b.1 →
      (∀ j, indexOfClosing text start = .ok (some j) ↔ Closes b.1 b.2 text.utf8 start j) ∧
      (∀ j k, Closes b.1 b.2 text.utf8 start j → Closes b.1 b.2 text.utf8 start k → j = k) ∧
      (indexOfClosing text start = .ok none ↔ ∀ j, ¬ Closes b.1 b.2 text.utf8 start j) := by
  refine ⟨indexOfClosing_eq_error_iff, fun b pair here => ?_⟩
  have apart : ∀ b ∈ bracketBytes, b.1 ≠ b.2 := by simp [bracketBytes]
  have ne := apart b pair
  have place (j : Nat) : indexOfClosing text start = .ok (some j) ↔
      Closes b.1 b.2 text.utf8 start j := by
    rw [indexOfClosing_of_bracket pair here, Except.ok.injEq, closes_iff ne]
  refine ⟨place, fun j k => Closes.unique ne, ?_⟩
  simp only [← place, indexOfClosing_of_bracket pair here, Except.ok.injEq,
    Option.eq_none_iff_forall_ne_some, ne_eq]

/-- The letter in front takes two bytes, and the curly bracket inside does not count. -/
theorem indexOfClosing_nested_round :
    (0x28, 0x29) ∈ bracketBytes ∧ (Text.utf8 "é(a\x7b(b)c)>".toList)[2]? = some 0x28 ∧
      indexOfClosing "é(a\x7b(b)c)>".toList 2 = .ok (some 9) ∧
      Closes 0x28 0x29 (Text.utf8 "é(a\x7b(b)c)>".toList) 2 9 := by
  have here : (Text.utf8 "é(a\x7b(b)c)>".toList)[2]? = some 0x28 := by decide +kernel
  have found : indexOfClosing "é(a\x7b(b)c)>".toList 2 = .ok (some 9) := by decide +kernel
  have grammar := (indexOfClosing_nested "é(a\x7b(b)c)>".toList 2).2 (0x28, 0x29) (by decide) here
  exact ⟨by decide, here, found, (grammar.1 9).1 found⟩

end HeaderForge
