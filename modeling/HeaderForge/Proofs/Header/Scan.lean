import HeaderForge.Header
import HeaderForge.Proofs.Text.Line
import HeaderForge.Proofs.Text.Stop

/-! What one step of reading a header can do. A block is cut exactly where its lines stand, and
reading either passes one line, stops at a fault of the block in front of it, or takes the
definition of that block and goes on below it. -/

namespace HeaderForge

variable {names : List Text} {number : Nat} {above : Option Text} {line : Text} {rest : List Text}

/-- A block is cut exactly where a line that is just an opening brace, lines that are not just a
closing brace, and a line that is follow each other below a template line. -/
theorem Block.cut_eq_ok {b : Block} :
    Block.cut number above rest = .ok b ↔
      above = some b.template ∧ ∃ opening, rest = opening :: (b.body ++ b.closing :: b.below) ∧
        opensBody opening = true ∧ (∀ l ∈ b.body, closesBody l = false) ∧
        closesBody b.closing = true := by
  constructor
  · intro h
    unfold Block.cut at h
    split at h
    · cases h
    · cases h
    · rename_i template opening rest
      split at h
      · rename_i opens
        split at h
        · cases h
        · rename_i closing below found
          cases h
          refine ⟨rfl, opening, ?_, opens, ?_, ?_⟩
          · rw [← found, List.takeWhile_append_dropWhile]
          · intro l hl
            simpa using List.mem_takeWhile_imp hl
          · have stops := stopsAt_dropWhile (!closesBody ·) rest
            rw [found, stopsAt_cons] at stops
            simpa using stops
      · cases h
  · rintro ⟨rfl, opening, rfl, opens, body, closes⟩
    have passes : ∀ l ∈ b.body, (!closesBody l) = true := by
      intro l hl
      rw [body l hl]
      rfl
    have stops : StopsAt (!closesBody ·) (b.closing :: b.below) := by
      rw [stopsAt_cons, closes]
      rfl
    simp only [Block.cut, if_pos opens, dropWhile_append_stop passes stops,
      takeWhile_append_stop passes stops]

theorem Block.cut_eq_error {e : ReadError} (h : Block.cut number above rest = .error e) :
    (above = none ∧ e = .missingTemplateLine number) ∨
      (above ≠ none ∧ opensBody (rest.headD []) = false ∧
        e = .missingBodyOpen (number + 1) (Text.trim (rest.headD []))) ∨
      (above ≠ none ∧ opensBody (rest.headD []) = true ∧
        (∀ l ∈ rest.tail, closesBody l = false) ∧ e = .unterminatedBody number) := by
  unfold Block.cut at h
  split at h
  · cases h
    exact Or.inl ⟨rfl, rfl⟩
  · cases h
    exact Or.inr (Or.inl ⟨by simp, rfl, rfl⟩)
  · rename_i template opening rest
    split at h
    · rename_i opens
      split at h
      · rename_i found
        cases h
        refine Or.inr (Or.inr ⟨by simp, opens, ?_, rfl⟩)
        intro l hl
        simpa using List.dropWhile_eq_nil_iff.1 found l hl
      · cases h
    · rename_i shut
      cases h
      exact Or.inr (Or.inl ⟨by simp, by simpa using shut, rfl⟩)

theorem Block.read_eq_ok {b : Block} {d : Definition} : b.read line = .ok d ↔
    readTemplateParameters b.template = .ok d.templateParameters ∧
      readDeclaration (Text.trim line) = .ok d.declaration ∧ d.body = Text.ended b.body := by
  obtain ⟨templateParameters, declaration, body⟩ := d
  rw [Block.read]
  cases readTemplateParameters b.template with
  | error e => simp
  | ok ps =>
    cases readDeclaration (Text.trim line) with
    | error e => simp
    | ok declaration =>
      simp only [Except.ok.injEq, Definition.mk.injEq]
      rw [eq_comm (a := body)]
      rfl

theorem Block.read_eq_error {b : Block} {e : ReadError} : b.read line = .error e ↔
    readTemplateParameters b.template = .error e ∨
      ∃ ps, readTemplateParameters b.template = .ok ps ∧
        readDeclaration (Text.trim line) = .error e := by
  rw [Block.read]
  cases readTemplateParameters b.template with
  | error e => simp
  | ok ps => cases readDeclaration (Text.trim line) <;> simp

theorem readLines_nil : readLines names number above [] = .ok [] := by
  rw [readLines]

theorem readLines_pass (h : isDeclarationLine line = false) :
    readLines names number above (line :: rest) =
      readLines names (number + 1) (some line) rest := by
  rw [readLines, if_neg (by simp [h])]

theorem readLines_cut_error {e : ReadError} (h : isDeclarationLine line = true)
    (cut : Block.cut number above rest = .error e) :
    readLines names number above (line :: rest) = .error e := by
  rw [readLines, if_pos h]
  split
  · rename_i found
    rw [cut] at found
    cases found
    rfl
  · rename_i found
    rw [cut] at found
    cases found

theorem readLines_read_error {e : ReadError} {b : Block} (h : isDeclarationLine line = true)
    (cut : Block.cut number above rest = .ok b) (read : b.read line = .error e) :
    readLines names number above (line :: rest) = .error e := by
  rw [readLines, if_pos h]
  split
  · rename_i found
    rw [cut] at found
    cases found
  · rename_i found
    rw [cut] at found
    cases found
    rw [read]

theorem readLines_take {b : Block} {d : Definition} (h : isDeclarationLine line = true)
    (cut : Block.cut number above rest = .ok b) (read : b.read line = .ok d) :
    readLines names number above (line :: rest) =
      (readLines names (number + b.body.length + 3) (some b.closing) b.below).map
        fun ds => if isWanted names d then d :: ds else ds := by
  rw [readLines, if_pos h]
  split
  · rename_i found
    rw [cut] at found
    cases found
  · rename_i found
    rw [cut] at found
    cases found
    rw [read]

end HeaderForge
