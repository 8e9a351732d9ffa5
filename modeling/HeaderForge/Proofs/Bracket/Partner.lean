import HeaderForge.Proofs.Bracket.Grammar
import HeaderForge.Proofs.Bracket.Offset

/-! Partners in a balanced text. From every opener of it the search finds a closer, and every closer
is found from one opener and no other. What stands before a balanced text takes no part in this,
whatever brackets it holds. -/

namespace HeaderForge

open Text

section Partner

variable {α : Type} [DecidableEq α] {opener closer x : α} {l s s' t m m' : List α} {i : Nat}

omit [DecidableEq α] in
theorem getElem?_eq_some_iff_cut : l[i]? = some x ↔ ∃ s r, l = s ++ x :: r ∧ s.length = i := by
  constructor
  · intro here
    obtain ⟨inside, rfl⟩ := List.getElem?_eq_some_iff.1 here
    refine ⟨l.take i, l.drop (i + 1), ?_, List.length_take_of_le inside.le⟩
    rw [← List.drop_eq_getElem_cons inside, List.take_append_drop]
  · rintro ⟨s, r, rfl, rfl⟩
    simp

theorem Balanced.append (h : Balanced opener closer s) (h' : Balanced opener closer t) :
    Balanced opener closer (s ++ t) := by
  rw [Balanced, openAfter_append, h]
  exact h'

theorem not_balanced_open (h : Balanced opener closer m) (s : List α) :
    ¬ Balanced opener closer (s ++ opener :: m) := by
  intro whole
  refine allClosed_of_balanced whole s m rfl (closingIndex_eq_none_iff.2 ?_)
  rw [h]
  exact Option.some_ne_none 0

theorem Balanced.exists_closer (ne : opener ≠ closer)
    (h : Balanced opener closer (s ++ opener :: t)) :
    ∃ m r, t = m ++ closer :: r ∧ Balanced opener closer m := by
  obtain ⟨n, found⟩ := Option.ne_none_iff_exists'.1 (allClosed_of_balanced h s t rfl)
  obtain ⟨m, r, split, -, inside⟩ := (closingIndex_eq_some_iff ne).1 found
  exact ⟨m, r, split, inside⟩

omit [DecidableEq α] in
theorem Nested.exists_opener (ne : opener ≠ closer) (h : Nested opener closer l)
    (split : l = s ++ closer :: t) : ∃ a m, s = a ++ opener :: m ∧ Nested opener closer m := by
  -- A closer is that of a pair, or stands inside a pair or behind it.
  induction h generalizing s t with
  | nil => simp at split
  | @other x l notOpener notCloser _ ih =>
    cases s with
    | nil => exact absurd (List.cons.inj split).1 notCloser
    | cons y s =>
      obtain ⟨rfl, below⟩ := List.cons.inj split
      obtain ⟨a, m, rfl, inside⟩ := ih below
      exact ⟨x :: a, m, rfl, inside⟩
  | @pair inner behind nested _ ihInner ihBehind =>
    cases s with
    | nil => exact absurd (List.cons.inj split).1 ne
    | cons y s =>
      obtain ⟨rfl, below⟩ := List.cons.inj split
      obtain ⟨more, rfl, rest⟩ | ⟨more, rfl, rest⟩ := List.append_eq_append_iff.1 below
      · cases more with
        | nil => exact ⟨[], inner, by simp, nested⟩
        | cons y more =>
          obtain ⟨rfl, later⟩ := List.cons.inj rest
          obtain ⟨a, m, rfl, inside⟩ := ihBehind later
          exact ⟨opener :: (inner ++ closer :: a), m, by simp, inside⟩
      · cases more with
        | nil => exact ⟨[], s, rfl, by rwa [List.append_nil] at nested⟩
        | cons y more =>
          obtain ⟨rfl, -⟩ := List.cons.inj rest
          obtain ⟨a, m, rfl, inside⟩ := ihInner rfl
          exact ⟨opener :: a, m, rfl, inside⟩

theorem opener_unique (h : Balanced opener closer m) (h' : Balanced opener closer m')
    (same : s ++ opener :: m = s' ++ opener :: m') : s = s' := by
  have behind {a b u : List α} (inside : Balanced opener closer a)
      (outside : Balanced opener closer b) (cut : opener :: b = u ++ opener :: a) : u = [] := by
    cases u with
    | nil => rfl
    | cons y u =>
      obtain ⟨-, rfl⟩ := List.cons.inj cut
      exact absurd outside (not_balanced_open inside u)
  obtain ⟨u, rfl, rest⟩ | ⟨u, rfl, rest⟩ := List.append_eq_append_iff.1 same
  · rw [behind h' h rest, List.append_nil]
  · rw [behind h h' rest, List.append_nil]

end Partner

section Offset

variable {text t : Text} {i j start : Nat} {b : UInt8 × UInt8}

theorem bracketBytes_apart : ∀ b ∈ bracketBytes, b.1 ≠ b.2 := by simp [bracketBytes]

theorem indexOfClosing_eq_some_iff : indexOfClosing text i = .ok (some j) ↔
    ∃ b ∈ bracketBytes, ∃ s m r, text.utf8 = s ++ b.1 :: (m ++ b.2 :: r) ∧ s.length = i ∧
      (s ++ b.1 :: m).length = j ∧ Balanced b.1 b.2 m := by
  constructor
  · intro found
    rw [indexOfClosing] at found
    split at found
    · cases found
    · rename_i opener here
      split at found
      · cases found
      · rename_i closer pair
        obtain ⟨s, rest, split, rfl⟩ := getElem?_eq_some_iff_cut.1 here
        rw [closerOf_eq_some_iff] at pair
        rw [split, List.append_cons, List.drop_left' (by simp), Except.ok.injEq,
          Option.map_eq_some_iff] at found
        obtain ⟨n, partner, rfl⟩ := found
        obtain ⟨m, r, rfl, rfl, inside⟩ :=
          (closingIndex_eq_some_iff (bracketBytes_apart _ pair)).1 partner
        refine ⟨(opener, closer), pair, s, m, r, split, rfl, ?_, inside⟩
        rw [List.length_append, List.length_cons]
        omega
  · rintro ⟨b, pair, s, m, r, split, rfl, rfl, inside⟩
    have here : text.utf8[s.length]? = some b.1 := getElem?_eq_some_iff_cut.2 ⟨s, _, split, rfl⟩
    have partner := closingIndex_of_balanced (bracketBytes_apart b pair) inside r
    rw [indexOfClosing_of_bracket pair here, split, List.append_cons, List.drop_left' (by simp),
      partner]
    simp only [Option.map_some, List.length_append, List.length_cons, Except.ok.injEq,
      Option.some.injEq]
    omega

/-- From an offset on, each bracket of a text has a partner, and each closer is the partner of one
bracket of the text, which stands behind that offset too. -/
structure MatchedFrom (text : Text) (start : Nat) : Prop where
  opened : ∀ b ∈ bracketBytes, ∀ i, start ≤ i → text.utf8[i]? = some b.1 →
    ∃ j, indexOfClosing text i = .ok (some j)
  closed : ∀ b ∈ bracketBytes, ∀ j, start ≤ j → text.utf8[j]? = some b.2 →
    ∃ i, start ≤ i ∧ ∀ k, indexOfClosing text k = .ok (some j) ↔ k = i

theorem bracketBytes_closer_inj : ∀ b ∈ bracketBytes, ∀ b' ∈ bracketBytes, b.2 = b'.2 → b = b' := by
  simp [bracketBytes]

theorem cut_behind {front t : List UInt8} {x : UInt8} (behind : front.length ≤ i)
    (here : (front ++ t)[i]? = some x) :
    ∃ s r, t = s ++ x :: r ∧ (front ++ s).length = i := by
  rw [List.getElem?_append_right behind] at here
  obtain ⟨s, r, split, size⟩ := getElem?_eq_some_iff_cut.1 here
  refine ⟨s, r, split, ?_⟩
  rw [List.length_append, size]
  omega

theorem matchedFrom_of_balanced (h : ∀ b ∈ bracketBytes, Balanced b.1 b.2 t.utf8)
    (front : Text) : MatchedFrom (front ++ t) (utf8Size front) := by
  have bytes : (front ++ t).utf8 = front.utf8 ++ t.utf8 := utf8_append front t
  rw [← length_utf8]
  constructor
  · intro b pair i behind here
    rw [bytes] at here
    obtain ⟨s, rest, split, size⟩ := cut_behind behind here
    have balanced := h b pair
    rw [split] at balanced
    obtain ⟨m, r, rfl, inside⟩ := balanced.exists_closer (bracketBytes_apart b pair)
    refine ⟨_, indexOfClosing_eq_some_iff.2
      ⟨b, pair, front.utf8 ++ s, m, r, ?_, size, rfl, inside⟩⟩
    rw [bytes, split, List.append_assoc]
  · intro b pair j behind here
    have ne := bracketBytes_apart b pair
    rw [bytes] at here
    obtain ⟨s, r, split, size⟩ := cut_behind behind here
    obtain ⟨a, m, rfl, inside⟩ := (nested_of_balanced ne (h b pair)).exists_opener ne split
    have inside := inside.balanced ne
    refine ⟨(front.utf8 ++ a).length, by simp, fun k => ?_⟩
    constructor
    · intro found
      obtain ⟨b', pair', s', m', r', split', rfl, size', inside'⟩ :=
        indexOfClosing_eq_some_iff.1 found
      have whole : (front.utf8 ++ (a ++ b.1 :: m)) ++ b.2 :: r =
          (s' ++ b'.1 :: m') ++ b'.2 :: r' := by
        rw [List.append_assoc, ← split, ← bytes, split', List.append_assoc, List.cons_append]
      obtain ⟨same, closers⟩ := List.append_inj whole (size.trans size'.symm)
      have one := bracketBytes_closer_inj b pair b' pair' (List.cons.inj closers).1
      subst one
      rw [← List.append_assoc] at same
      rw [opener_unique inside inside' same]
    · rintro rfl
      refine indexOfClosing_eq_some_iff.2 ⟨b, pair, front.utf8 ++ a, m, r, ?_, rfl, ?_, inside⟩
      · rw [bytes, split]
        simp
      · rw [← size, List.append_assoc]

theorem balanced_utf8 {o c : Char} (ho : o.toNat < 0x80) (hc : c.toNat < 0x80) (ne : o ≠ c)
    (h : Balanced o c t) : Balanced (UInt8.ofNat o.toNat) (UInt8.ofNat c.toNat) t.utf8 := by
  have apart : UInt8.ofNat o.toNat ≠ UInt8.ofNat c.toNat := by rwa [ne_eq, ofNat_toNat_inj ho hc]
  have partner := closingIndex_utf8 ho hc 0 (t ++ [c])
  rw [closingIndex_of_balanced ne h, Option.map_some, List.take_left, ← length_utf8, utf8_append,
    closingIndex_eq_some_iff apart] at partner
  obtain ⟨s, r, split, size, closed⟩ := partner
  rw [(List.append_inj split size.symm).1]
  exact closed

theorem indexOfClosing_enclosed {o c : Char} {m : Text}
    (pair : (UInt8.ofNat o.toNat, UInt8.ofNat c.toNat) ∈ bracketBytes) (ho : o.toNat < 0x80)
    (hc : c.toNat < 0x80) (inside : Balanced o c m) (s r : Text) :
    indexOfClosing (s ++ o :: (m ++ c :: r)) (utf8Size s) =
      .ok (some (utf8Size (s ++ o :: m))) := by
  have ne : o ≠ c := by
    rintro rfl
    exact bracketBytes_apart _ pair rfl
  refine indexOfClosing_eq_some_iff.2
    ⟨_, pair, s.utf8, m.utf8, r.utf8, ?_, length_utf8 s, ?_, balanced_utf8 ho hc ne inside⟩
  · simp only [utf8_append, utf8_cons, utf8EncodeChar_of_ascii ho, utf8EncodeChar_of_ascii hc,
      List.singleton_append]
  · rw [← length_utf8, utf8_append, utf8_cons, utf8EncodeChar_of_ascii ho, List.singleton_append]

end Offset

/-- Every bracket of a text has its partner. -/
def IsBalanced (t : Text) : Prop := ∀ b ∈ bracketPairs, Balanced b.1 b.2 t

theorem IsBalanced.matchedFrom {t : Text} (h : IsBalanced t) (front : Text) :
    MatchedFrom (front ++ t) (utf8Size front) := by
  refine matchedFrom_of_balanced ?_ front
  have ascii : ∀ b ∈ bracketBytes, ∃ p ∈ bracketPairs, p.1.toNat < 0x80 ∧ p.2.toNat < 0x80 ∧
      p.1 ≠ p.2 ∧ (UInt8.ofNat p.1.toNat, UInt8.ofNat p.2.toNat) = b := by
    simp [bracketBytes, bracketPairs]
  intro b pair
  obtain ⟨p, listed, opener, closer, ne, rfl⟩ := ascii b pair
  exact balanced_utf8 opener closer ne (h p listed)

end HeaderForge
