import HeaderForge.Proofs.Header.Fault
import HeaderForge.Proofs.Header.Scan

/-! Headers one below the other. What was read from the upper lines does not change when lines are
put below them, and what is read from the lower lines depends on what stands above only through
their numbers and through the line just above a declaration in front. -/

namespace HeaderForge

variable {names : List Text} {number : Nat} {above : Option Text} {upper lower : List Text}

namespace Block

theorem cut_append {b : Block} (h : cut number above upper = .ok b) (lower : List Text) :
    cut number above (upper ++ lower) = .ok { b with below := b.below ++ lower } := by
  rw [cut_eq_ok] at h ⊢
  obtain ⟨template, opening, split, opens, body, closes⟩ := h
  refine ⟨template, opening, ?_, opens, body, closes⟩
  rw [split]
  simp

theorem cut_shift (k number : Nat) (above : Option Text) (rest : List Text) :
    cut (number + k) above rest = (cut number above rest).mapError (ReadError.shiftLine k) := by
  unfold cut
  split
  · rfl
  · rw [Nat.add_right_comm]
    rfl
  · split
    · split <;> rfl
    · rw [Nat.add_right_comm]
      rfl

theorem length_cut {b : Block} (h : cut number above upper = .ok b) :
    upper.length = b.body.length + 2 + b.below.length := by
  obtain ⟨-, opening, split, -⟩ := cut_eq_ok.1 h
  rw [split]
  simp only [List.length_cons, List.length_append]
  omega

theorem getLast?_cut {b : Block} {line : Text} (h : cut number above upper = .ok b) :
    (line :: upper).getLast? = b.below.getLast?.or (some b.closing) := by
  obtain ⟨-, opening, split, -⟩ := cut_eq_ok.1 h
  have whole : line :: upper = (line :: opening :: b.body ++ [b.closing]) ++ b.below := by
    rw [split]
    simp
  rw [whole, List.getLast?_append, List.getLast?_concat]

end Block

theorem readLines_append {fs : List Definition} (h : readLines names number above upper = .ok fs)
    (lower : List Text) :
    readLines names number above (upper ++ lower) =
      (readLines names (number + upper.length) (upper.getLast?.or above) lower).map (fs ++ ·) := by
  fun_induction readLines names number above upper generalizing fs with
  | case1 number above =>
    cases h
    have whole : (fun gs : List Definition => [] ++ gs) = id := by
      funext gs
      rfl
    rw [whole, Except.map_id]
    rfl
  | case2 number above line rest mark e cut => cases h
  | case3 number above line rest mark b cut e read => cases h
  | case4 number above line rest mark b cut d read ih =>
    obtain ⟨ds, below, rfl⟩ := map_eq_ok_iff.1 h
    have read' : Block.read { b with below := b.below ++ lower } line = .ok d := read
    have next := ih below
    have length : number + (line :: rest).length =
        number + b.body.length + 3 + b.below.length := by
      rw [List.length_cons, Block.length_cut cut]
      omega
    have last : (line :: rest).getLast?.or above = b.below.getLast?.or (some b.closing) := by
      rw [Block.getLast?_cut cut, Option.or_assoc]
      rfl
    rw [List.cons_append, readLines_take mark (Block.cut_append cut lower) read', length, last]
    dsimp only
    rw [next, map_map]
    congr 1
    funext gs
    dsimp only [Function.comp]
    split <;> rfl
  | case5 number above line rest mark ih =>
    have mark' : isDeclarationLine line = false := by simpa using mark
    have length : number + (line :: rest).length = number + 1 + rest.length := by
      rw [List.length_cons]
      omega
    have last : (line :: rest).getLast?.or above = rest.getLast?.or (some line) := by
      rw [List.getLast?_cons, ← Option.or_some, Option.or_assoc]
      rfl
    rw [List.cons_append, readLines_pass mark', ih h, length, last]

/-- The numbers of the lines show only in the faults. -/
theorem readLines_shift (k : Nat) (names : List Text) (number : Nat) (above : Option Text)
    (ls : List Text) :
    readLines names (number + k) above ls =
      (readLines names number above ls).mapError (ReadError.shiftLine k) := by
  fun_induction readLines names number above ls with
  | case1 => rw [readLines_nil]; rfl
  | case2 number above line rest mark e cut =>
    have cut' := Block.cut_shift k number above rest
    rw [cut] at cut'
    exact readLines_cut_error mark cut'
  | case3 number above line rest mark b cut e read =>
    have cut' := Block.cut_shift k number above rest
    rw [cut] at cut'
    rw [readLines_read_error mark cut' read, Except.mapError,
      ReadError.shiftLine_of_line?_eq_none (Block.read_line? read)]
  | case4 number above line rest mark b cut d read ih =>
    have cut' := Block.cut_shift k number above rest
    rw [cut] at cut'
    have sum : number + k + b.body.length + 3 = number + b.body.length + 3 + k := by omega
    rw [readLines_take mark cut' read, sum, ih, mapError_map]
  | case5 number above line rest mark ih =>
    have mark' : isDeclarationLine line = false := by simpa using mark
    have sum : number + k + 1 = number + 1 + k := by omega
    rw [readLines_pass mark', sum, ih]

theorem readLines_above {ls : List Text}
    (h : ∀ line, readLines names number none ls ≠ .error (.missingTemplateLine line))
    (above : Option Text) :
    readLines names number above ls = readLines names number none ls := by
  cases ls with
  | nil => rw [readLines_nil, readLines_nil]
  | cons line rest =>
    cases mark : isDeclarationLine line with
    | false => rw [readLines_pass mark, readLines_pass mark]
    | true =>
      have missing : Block.cut number none rest = .error (.missingTemplateLine number) := rfl
      exact absurd (readLines_cut_error mark missing) (h number)

/-- A header below one that was read is read as if it stood alone, its definitions coming after
those of the upper one and its faults telling lines of the whole. -/
theorem readHeader_append (names : List Text) {a : Text} {fa : List Definition}
    (h : readHeader a names = .ok fa) (b : Text) :
    (∀ fb, readHeader b names = .ok fb →
      readHeader (a ++ '\n' :: b) names = .ok (fa ++ fb)) ∧
    (∀ e, readHeader b names = .error e → (∀ line, e ≠ .missingTemplateLine line) →
      readHeader (a ++ '\n' :: b) names = .error (e.shiftLine (a.count '\n' + 1))) := by
  have whole (alone : ∀ line, readHeader b names ≠ .error (.missingTemplateLine line)) :
      readHeader (a ++ '\n' :: b) names =
        ((readHeader b names).mapError (ReadError.shiftLine (a.count '\n' + 1))).map (fa ++ ·) := by
    rw [readHeader, Text.lines_append_newline, readLines_append h, Text.length_lines,
      readLines_shift, readLines_above alone]
    rfl
  constructor
  · intro fb hb
    have alone (line : Nat) : readHeader b names ≠ .error (.missingTemplateLine line) := by
      simp [hb]
    rw [whole alone, hb]
    rfl
  · intro e hb other
    have alone (line : Nat) : readHeader b names ≠ .error (.missingTemplateLine line) := by
      simpa [hb] using other line
    rw [whole alone, hb]
    rfl

theorem readHeader_append_unopened :
    readHeader "template <class T>\n[[nodiscard]] constexpr T f()\n\x7b\n\x7d".toList [] =
      .ok [⟨[⟨"class".toList, "T".toList, []⟩],
        ⟨[.nodiscard, .constexpr], ['f'], [], ['T']⟩, []⟩] ∧
    readHeader ("template <class T>\n[[nodiscard]] constexpr T f()\n\x7b\n\x7d".toList ++
      '\n' :: "\n[[nodiscard]] constexpr T g()".toList) [] = .error (.missingBodyOpen 7 []) := by
  have h : readHeader "template <class T>\n[[nodiscard]] constexpr T f()\n\x7b\n\x7d".toList [] =
      .ok [⟨[⟨"class".toList, "T".toList, []⟩],
        ⟨[.nodiscard, .constexpr], ['f'], [], ['T']⟩, []⟩] := by decide +kernel
  refine ⟨h, (readHeader_append [] h "\n[[nodiscard]] constexpr T g()".toList).2
    (.missingBodyOpen 3 []) (by decide +kernel) ?_⟩
  intro line other
  cases other

end HeaderForge
