import HeaderForge.Files
import HeaderForge.Proofs.FileTree.Growth
import HeaderForge.Proofs.Path.Order

/-! Spellings of a path. Pieces that name nothing lead nowhere else, so two spellings of one path
that both lead to a file lead to the same one. Only whether they lead anywhere may differ: `f/` and
`f/.` ask for a directory. -/

namespace HeaderForge

namespace Path

variable {p q : Path}

def moves (p : Path) : List Text := p.segments.filter (!isIdle ·)

theorem ofSegment_inj {m n : Text} (h : Component.ofSegment m = Component.ofSegment n) : m = n := by
  unfold Component.ofSegment at h
  split at h
  · rename_i up
    split at h
    · rename_i up'
      rw [up, up']
    · cases h
  · split at h
    · cases h
    · exact Component.name.inj h

def steps (cs : List Component) : List Component := cs.filter fun c => c ≠ .root ∧ c ≠ .here

theorem steps_map_ofSegment (pieces : List Text) :
    steps (pieces.map Component.ofSegment) = pieces.map Component.ofSegment := by
  rw [steps, List.filter_eq_self]
  intro c hc
  obtain ⟨s, -, rfl⟩ := List.mem_map.1 hc
  unfold Component.ofSegment
  split <;> simp

theorem steps_components (p : Path) : steps p.components = p.moves.map Component.ofSegment := by
  unfold components moves
  split
  · exact steps_map_ofSegment _
  · split
    · rename_i rest front
      rw [front]
      exact steps_map_ofSegment _
    · exact steps_map_ofSegment _

theorem root_mem_components_iff : .root ∈ p.components ↔ p.isAbsolute = true := by
  have absent (pieces : List Text) : .root ∉ pieces.map Component.ofSegment := by
    rw [← steps_map_ofSegment]
    simp [steps]
  unfold components
  split
  · rename_i absolute
    simp [absolute]
  · rename_i relative
    split <;> simp [relative, absent]

theorem moves_of_same (h : p.same q = true) : p.isAbsolute = q.isAbsolute ∧ p.moves = q.moves := by
  rw [same_iff] at h
  refine ⟨?_, ?_⟩
  · rw [Bool.eq_iff_iff, ← root_mem_components_iff, ← root_mem_components_iff, h]
  · refine (List.map_inj_right fun m n => ofSegment_inj).1 ?_
    rw [← steps_components, ← steps_components, h]

end Path

namespace FileTree

variable {t : FileTree} {p q : Path} {l l' : Location} {names : List Text} {ds : List Definition}

theorem step_idle {piece : Text} (ne : piece ≠ []) (idle : Path.isIdle piece = true)
    (ok : t.step l piece = .ok l') : l' = l := by
  have here : piece = ['.'] := by simpa [Path.isIdle, ne] using idle
  unfold step at ok
  split at ok
  · cases ok
  · cases ok
  · rw [if_pos here] at ok
    cases ok
    rfl

theorem steps_of_moves {pieces : List Text} (solid : ∀ piece ∈ pieces, piece ≠ [])
    (ok : pieces.foldlM t.step l = .ok l') :
    (pieces.filter (!Path.isIdle ·)).foldlM t.step l = .ok l' := by
  -- Pieces that lead nowhere can be left out.
  induction pieces generalizing l with
  | nil => exact ok
  | cons piece pieces ih =>
    rw [List.forall_mem_cons] at solid
    rw [List.foldlM_cons] at ok
    cases first : t.step l piece with
    | error r =>
      rw [first] at ok
      cases ok
    | ok k =>
      rw [first] at ok
      have rest := ih solid.2 ok
      by_cases idle : Path.isIdle piece = true
      · rw [List.filter_cons_of_neg (by simp [idle]), ← step_idle solid.1 idle first]
        exact rest
      · rw [List.filter_cons_of_pos (by simp [idle]), List.foldlM_cons, first]
        exact rest

theorem moves_of_locate (ok : t.locate p = .ok l) :
    p.moves.foldlM t.step (if p.isAbsolute then [] else t.workingDirectory) = .ok l := by
  refine steps_of_moves (fun piece mem => ?_) (locate_eq_ok_iff.1 ok).2.2
  simpa using (List.mem_filter.1 mem).2

theorem locate_of_same (same : p.same q = true) (ok : t.locate p = .ok l)
    (ok' : t.locate q = .ok l') : l = l' := by
  obtain ⟨front, moves⟩ := Path.moves_of_same same
  have led := moves_of_locate ok
  rw [front, moves, moves_of_locate ok'] at led
  cases led
  rfl

theorem isFile_iff : t.isFile p = true ↔
    ∃ l x, t.locate p = .ok l ∧ t.entryAt l = some (.file x) ∧ t.find p = .ok (.file x) := by
  unfold isFile find
  cases place : t.locate p with
  | error r => simp
  | ok l =>
    cases at_l : t.entryAt l with
    | none => simp [at_l]
    | some entry =>
      cases entry with
      | directory => simp [at_l]
      | file x =>
        by_cases slash : p.text.getLast? = some '/' <;> simp [at_l, slash]

theorem find_of_same (same : p.same q = true) (file : t.isFile p = true)
    (file' : t.isFile q = true) : t.find p = t.find q := by
  obtain ⟨l, x, place, at_l, found⟩ := isFile_iff.1 file
  obtain ⟨l', x', place', at_l', found'⟩ := isFile_iff.1 file'
  rw [locate_of_same same place place', at_l'] at at_l
  cases at_l
  rw [found, found']

/-- Either spelling reads the same definitions. -/
theorem readHeaderFile_of_same (same : p.same q = true) (file : t.isFile p = true)
    (file' : t.isFile q = true) (read : readHeaderFile t p names = .ok ds) :
    readHeaderFile t q names = .ok ds := by
  obtain ⟨l, x, -, -, found⟩ := isFile_iff.1 file
  unfold readHeaderFile readText at read ⊢
  rw [← find_of_same same file file', found]
  rw [found] at read
  cases decoded : Text.decode? x with
  | none =>
    simp only [decoded] at read
    cases read
  | some text => simpa only [decoded] using read

end FileTree
end HeaderForge
