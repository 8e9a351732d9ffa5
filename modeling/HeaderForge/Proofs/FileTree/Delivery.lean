import HeaderForge.Proofs.FileTree.Growth

/-! Delivered files. A delivery that succeeds leaves the file where its path leads, and the tree as
it was but for new directories; made again on the tree it leaves, or on any that has grown from it,
it only puts the file in its place. -/

namespace HeaderForge.FileTree

variable {t u : FileTree} {l : Location} {p : Path} {x : ByteArray} {s : Text}

/-- A file is where the path leads, and a directory is where its parent leads. -/
structure Holds (t : FileTree) (p : Path) (l : Location) : Prop where
  place : t.locate p = .ok l
  file : ∃ x, t.entryAt l = some (.file x)
  unslashed : p.text.getLast? ≠ some '/'
  parent : ∀ q, p.parent? = some q → q.text ≠ [] → t.isDirectory q = true

theorem Holds.mono (h : t.Holds p l) (grown : t.Grows u) : u.Holds p l where
  place := grown.locate h.place
  file := by
    obtain ⟨x, at_l⟩ := h.file
    exact grown.file l x at_l
  unslashed := h.unslashed
  parent q hq ne := grown.isDirectory (h.parent q hq ne)

theorem Holds.readText (h : t.Holds p l) (at_l : t.entryAt l = some (.file (Text.encode s))) :
    t.readText p = .ok s := by
  have found : t.find p = .ok (.file (Text.encode s)) := by
    simp only [find, h.place, at_l, if_neg h.unslashed]
  rw [FileTree.readText, found]
  simp only [Text.decode?_encode]

theorem write_eq_ok_iff : t.write p x = .ok u ↔ ∃ l, t.locate p = .ok l ∧
    p.text.getLast? ≠ some '/' ∧ t.entryAt l ≠ some .directory ∧ u = t.put l (.file x) := by
  unfold write
  cases place : t.locate p with
  | error r => simp
  | ok l =>
    by_cases slash : p.text.getLast? = some '/'
    · simp [slash]
    · cases at_l : t.entryAt l with
      | none => simp [slash, at_l, eq_comm]
      | some e =>
        cases e with
        | directory => simp [slash, at_l]
        | file y => simp [slash, at_l, eq_comm]

theorem finish_eq_ok_iff :
    deliver.finish p x t = (u, .ok ()) ↔ t.write p x = .ok u := by
  unfold deliver.finish
  cases t.write p x with
  | error r => simp
  | ok v => simp

theorem deliver_eq_ok_iff : t.deliver p x = (u, .ok ()) ↔ ∃ v, v.write p x = .ok u ∧
    ((∀ q, p.parent? = some q → q.text = []) ∧ v = t ∨
      ∃ q, p.parent? = some q ∧ q.text ≠ [] ∧ t.makeDirectories q = (v, .ok ())) := by
  unfold deliver
  cases parent : p.parent? with
  | none => simp [finish_eq_ok_iff]
  | some q =>
    by_cases empty : q.text = []
    · simp [empty, finish_eq_ok_iff]
    · cases made : t.makeDirectories q with
      | mk v r =>
        cases r with
        | error r => simp [empty, made]
        | ok _ => simp [empty, made, finish_eq_ok_iff]

/-- A delivery that succeeds adds directories at most, and leaves the file where its path leads. -/
theorem deliver_spec (h : t.deliver p x = (u, .ok ())) : ∃ v l, t.AddsDirectories v ∧
    v.entryAt l ≠ some .directory ∧ u = v.put l (.file x) ∧ u.Holds p l := by
  obtain ⟨v, written, made⟩ := deliver_eq_ok_iff.1 h
  obtain ⟨l, place, unslashed, free, rfl⟩ := write_eq_ok_iff.1 written
  have grown := Grows.put_file free x
  have at_l : (v.put l (.file x)).entryAt l = some (.file x) :=
    entryAt_put_self v (ne_nil_of_not_directory free) _
  obtain ⟨added, ready⟩ : t.AddsDirectories v ∧
      ∀ q, p.parent? = some q → q.text ≠ [] → v.isDirectory q = true := by
    rcases made with ⟨none, rfl⟩ | ⟨q, parent, named, made⟩
    · exact ⟨.refl v, fun q hq named => absurd (none q hq) named⟩
    · obtain ⟨added, there⟩ := makeDirectories_spec named made
      refine ⟨added, fun q' hq' _ => ?_⟩
      rw [parent] at hq'
      cases hq'
      exact there
  exact ⟨v, l, added, free, rfl, grown.locate place, ⟨x, at_l⟩, unslashed,
    fun q hq named => grown.isDirectory (ready q hq named)⟩

theorem Holds.deliver (h : t.Holds p l) (x : ByteArray) :
    t.deliver p x = (t.put l (.file x), .ok ()) := by
  obtain ⟨y, at_l⟩ := h.file
  refine deliver_eq_ok_iff.2 ⟨t, write_eq_ok_iff.2 ⟨l, h.place, h.unslashed, ?_, rfl⟩, ?_⟩
  · simp [at_l]
  · cases parent : p.parent? with
    | none => exact .inl ⟨by simp, rfl⟩
    | some q =>
      by_cases empty : q.text = []
      · exact .inl ⟨by simpa using empty, rfl⟩
      · exact .inr ⟨q, rfl, empty, makeDirectories_of_isDirectory empty (h.parent q parent empty)⟩

end HeaderForge.FileTree
