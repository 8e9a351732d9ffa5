import HeaderForge.Proofs.Files.Delivery
import Mathlib.Logic.Relation

/-! Where something new stands. Making a directory and writing a file put what was not there where
the path itself leads, or its parent, or the parent of that, and so on. -/

namespace HeaderForge

open FileTree

variable {t u v : FileTree} {p q : Path} {P Q : Path → Prop} {x : ByteArray}
  {files : List PlannedFile}

/-- One path is the other or above it: its parent, the parent of that, and so on. -/
def Path.IsAtOrAbove (q p : Path) : Prop :=
  Relation.ReflTransGen (fun p q => p.parent? = some q) p q

theorem Path.isAtOrAbove_of_mem_ancestors (h : q ∈ p.ancestors) : q.IsAtOrAbove p := by
  fun_induction Path.ancestors p with
  | case1 p none =>
    rw [List.mem_singleton.1 h]
    exact .refl
  | case2 p parent found ih =>
    rcases List.mem_cons.1 h with rfl | above
    · exact .refl
    · split at above
      · rename_i shorter
        exact (ih shorter above).head found
      · cases above

namespace FileTree

/-- Where nothing stood, something stands only if one of those paths leads there. -/
def NewOnlyAt (t u : FileTree) (P : Path → Prop) : Prop :=
  ∀ l, t.entryAt l = none → u.entryAt l ≠ none → ∃ p, P p ∧ u.locate p = .ok l

theorem NewOnlyAt.refl (t : FileTree) (P : Path → Prop) : t.NewOnlyAt t P :=
  fun _ free taken => absurd free taken

theorem NewOnlyAt.mono (h : t.NewOnlyAt u P) (more : ∀ p, P p → Q p) : t.NewOnlyAt u Q := by
  intro l free taken
  obtain ⟨p, hp, place⟩ := h l free taken
  exact ⟨p, more p hp, place⟩

theorem NewOnlyAt.trans (first : t.NewOnlyAt u P) (later : u.NewOnlyAt v P) (grown : u.Grows v) :
    t.NewOnlyAt v P := by
  intro l free taken
  by_cases still : u.entryAt l = none
  · exact later l still taken
  · obtain ⟨p, hp, place⟩ := first l free still
    exact ⟨p, hp, grown.locate place⟩

theorem newOnlyAt_put {l : Location} {e : Entry} (place : (t.put l e).locate p = .ok l) :
    t.NewOnlyAt (t.put l e) (· = p) := by
  intro m free taken
  by_cases same : m = l
  · rw [same]
    exact ⟨p, rfl, place⟩
  · rw [entryAt_put_ne t same] at taken
    exact absurd free taken

theorem newOnlyAt_makeDirectory (h : t.makeDirectory p = .ok u) : t.NewOnlyAt u (· = p) := by
  have grown := (addsDirectories_makeDirectory h).grows
  obtain ⟨l, place, -, rfl⟩ := makeDirectory_eq_ok h
  exact newOnlyAt_put (grown.locate place)

theorem newOnlyAt_makeAll (t : FileTree) (ps : List Path) :
    t.NewOnlyAt (t.makeAll ps).1 (· ∈ ps) := by
  -- what one step makes stays where its path leads, because the later steps only add
  let kept (t u : FileTree) : Prop := t.AddsDirectories u ∧ t.NewOnlyAt u (· ∈ ps)
  have both : kept t (t.makeAll ps).1 := by
    refine makeAll_of_makeDirectory (R := kept) (fun t => ⟨.refl t, .refl t _⟩) ?_ ?_ t
    · intro t u v first later
      exact ⟨first.1.trans later.1, first.2.trans later.2 later.1.grows⟩
    · intro p mem t u made
      exact ⟨addsDirectories_makeDirectory made,
        (newOnlyAt_makeDirectory made).mono fun q hq => hq ▸ mem⟩
  exact both.2

theorem newOnlyAt_deliver (h : t.deliver p x = (u, .ok ())) :
    t.NewOnlyAt u (·.IsAtOrAbove p) := by
  obtain ⟨v, written, made⟩ := deliver_eq_ok_iff.1 h
  obtain ⟨l, place, -, free, rfl⟩ := write_eq_ok_iff.1 written
  have grown := Grows.put_file free x
  have file : v.NewOnlyAt (v.put l (.file x)) (·.IsAtOrAbove p) :=
    (newOnlyAt_put (grown.locate place)).mono fun q hq => hq ▸ .refl
  rcases made with ⟨-, rfl⟩ | ⟨q, parent, -, made⟩
  · exact file
  · have above := newOnlyAt_makeAll t q.ancestors
    rw [← makeDirectories, made] at above
    refine (above.mono fun r hr => ?_).trans file grown
    exact (Path.isAtOrAbove_of_mem_ancestors hr).head parent

end FileTree

theorem newOnlyAt_writeFiles (h : writeFiles t files = (u, .ok ())) :
    t.NewOnlyAt u fun q => ∃ f ∈ files, q.IsAtOrAbove f.path := by
  induction files generalizing t with
  | nil =>
    cases h
    exact .refl _ _
  | cons f files ih =>
    rw [writeFiles] at h
    cases first : t.deliver f.path (Text.encode f.contents) with
    | mk v r =>
      rw [first] at h
      cases r with
      | error fault => cases h
      | ok _ =>
        have made := newOnlyAt_deliver first
        refine (made.mono fun q above => ⟨f, List.mem_cons_self, above⟩).trans ?_
          (delivered_of_writeFiles h).grown
        refine (ih h).mono fun q later => ?_
        obtain ⟨g, mem, above⟩ := later
        exact ⟨g, List.mem_cons_of_mem f mem, above⟩

/-- The one tree is the other after some files were written: each path leads to a file with the
contents that were last written there, and what is new elsewhere are directories to which parents
of the paths lead. -/
structure Wrote (t u : FileTree) (files : List PlannedFile) : Prop where
  start : u.workingDirectory = t.workingDirectory
  written : ∀ f ∈ files, ∃ l last, u.locate f.path = .ok l ∧ u.lastAt l files = some last ∧
    u.entryAt l = some (.file (Text.encode last.contents))
  others : ∀ l, (∀ f ∈ files, u.locate f.path ≠ .ok l) →
    u.entryAt l = t.entryAt l ∨
      t.entryAt l = none ∧ u.entryAt l = some .directory ∧
        ∃ f ∈ files, ∃ q, Relation.TransGen (fun p q => p.parent? = some q) f.path q ∧
          u.locate q = .ok l

theorem wrote_of_writeFiles (h : writeFiles t files = (u, .ok ())) : Wrote t u files := by
  have delivered := delivered_of_writeFiles h
  refine ⟨delivered.grown.start, fun f mem => ?_, fun l none => ?_⟩
  · obtain ⟨l, holds⟩ := delivered.held f mem
    cases last : u.lastAt l files with
    | none => exact absurd holds.place (lastAt_eq_none_iff.1 last f mem)
    | some g => exact ⟨l, g, holds.place, last, delivered.written l g last⟩
  · refine (delivered.others l (lastAt_eq_none_iff.2 none)).imp id fun new => ?_
    obtain ⟨free, made⟩ := new
    obtain ⟨q, ⟨f, mem, above⟩, place⟩ := newOnlyAt_writeFiles h l free (by simp [made])
    refine ⟨free, made, f, mem, q, ?_, place⟩
    obtain same | above := Relation.reflTransGen_iff_eq_or_transGen.1 above
    · exact absurd (same ▸ place) (none f mem)
    · exact above

end HeaderForge
