import HeaderForge.Proofs.Header.Scan
import HeaderForge.ReadError

/-! Headers read for some names. The names are looked at when a block has been read in full and its
lines are passed all the same, so that they choose among the definitions of the whole header and
neither hide a fault nor move the place where reading goes on. -/

namespace HeaderForge

variable {names : List Text}

theorem isWanted_nil (d : Definition) : isWanted [] d = true := rfl

theorem isWanted_eq (given : names ≠ []) (d : Definition) :
    isWanted names d = decide (d.declaration.name ∈ names) := by
  have some : names.isEmpty = false := by simpa using given
  rw [isWanted, some, Bool.false_or, List.contains_eq_mem]

theorem readLines_filter (names : List Text) (number : Nat) (above : Option Text)
    (ls : List Text) :
    readLines names number above ls =
      (readLines [] number above ls).map (List.filter (isWanted names)) := by
  -- The blocks that are cut, their faults and the lines left below them do not depend on the
  -- names.
  fun_induction readLines [] number above ls with
  | case1 number above =>
    rw [readLines_nil]
    rfl
  | case2 number above line rest mark e cut => exact readLines_cut_error mark cut
  | case3 number above line rest mark b cut e read => exact readLines_read_error mark cut read
  | case4 number above line rest mark b cut d read ih =>
    rw [readLines_take mark cut read, ih, map_map, map_map]
    congr 1
    funext ds
    rw [Function.comp_apply, Function.comp_apply, if_pos (isWanted_nil d), List.filter_cons]
  | case5 number above line rest mark ih =>
    have mark' : isDeclarationLine line = false := by simpa using mark
    rw [readLines_pass mark', ih]

theorem readHeader_eq_filter (text : Text) (names : List Text) :
    readHeader text names = (readHeader text []).map (List.filter (isWanted names)) :=
  readLines_filter names 1 none text.lines

/-- Reading for some names fails with the fault of the whole header or gives those of its
definitions that have one of the names, and depends only on which names are given. -/
theorem readHeader_filter (text : Text) (given : names ≠ []) :
    (∀ e, readHeader text names = .error e ↔ readHeader text [] = .error e) ∧
    (∀ fs, readHeader text [] = .ok fs →
      readHeader text names = .ok (fs.filter fun d => d.declaration.name ∈ names)) ∧
    (∀ names', (∀ n, n ∈ names' ↔ n ∈ names) →
      readHeader text names' = readHeader text names) := by
  refine ⟨fun e => ?_, fun fs whole => ?_, fun names' same => ?_⟩
  · rw [readHeader_eq_filter text names, map_eq_error_iff]
  · rw [readHeader_eq_filter text names, whole]
    exact congrArg Except.ok (List.filter_congr fun d _ => isWanted_eq given d)
  · have given' : names' ≠ [] := by
      obtain ⟨n, mem⟩ := List.exists_mem_of_ne_nil names given
      exact List.ne_nil_of_mem ((same n).2 mem)
    have wanted : isWanted names' = isWanted names := by
      funext d
      rw [isWanted_eq given', isWanted_eq given]
      exact decide_eq_decide.2 (same d.declaration.name)
    rw [readHeader_eq_filter text names', wanted, ← readHeader_eq_filter]

/-- One of two definitions is asked for, twice; and a template list is refused above a definition
that nobody asked for. -/
theorem readHeader_filter_repeated :
    readHeader ("template <class T>\n[[nodiscard]] constexpr T a()\n\x7b\n\x7d\n".toList ++
        "template <class U>\n[[nodiscard]] constexpr U b()\n\x7b\n1\n\x7d".toList) [] =
        .ok [⟨[⟨"class".toList, ['T'], []⟩], ⟨[.nodiscard, .constexpr], ['a'], [], ['T']⟩, []⟩,
          ⟨[⟨"class".toList, ['U'], []⟩], ⟨[.nodiscard, .constexpr], ['b'], [], ['U']⟩,
            "1\n".toList⟩] ∧
      readHeader ("template <class T>\n[[nodiscard]] constexpr T a()\n\x7b\n\x7d\n".toList ++
        "template <class U>\n[[nodiscard]] constexpr U b()\n\x7b\n1\n\x7d".toList)
        [['b'], ['b']] =
        .ok [⟨[⟨"class".toList, ['U'], []⟩], ⟨[.nodiscard, .constexpr], ['b'], [], ['U']⟩,
          "1\n".toList⟩] ∧
      readHeader "template <class T, U>\n[[nodiscard]] constexpr T f()\n\x7b\n\x7d".toList
        [['g']] = .error (.malformedTemplateParameter ['U']) := by
  have given : [['b'], ['b']] ≠ [] := by decide
  have other : [['g']] ≠ [] := by decide
  refine ⟨?whole, (readHeader_filter _ given).2.1 _ ?whole,
    ((readHeader_filter _ other).1 _).2 ?fault⟩
  · decide +kernel
  · decide +kernel

end HeaderForge
