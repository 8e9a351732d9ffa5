import HeaderForge.Files
import HeaderForge.Proofs.FileTree.Delivery
import HeaderForge.ReadError
import Mathlib.Data.List.Nodup

/-! Files written one after another. A place holds the last of the files whose paths lead there,
every path leads to a place that is held, and nothing but directories is added elsewhere. -/

namespace HeaderForge

open FileTree

variable {t u v : FileTree} {l : Location} {f : PlannedFile} {files : List PlannedFile}

def FileTree.lastAt (t : FileTree) (l : Location) (files : List PlannedFile) :
    Option PlannedFile :=
  files.findRev? fun f => t.locate f.path = .ok l

theorem lastAt_cons (t : FileTree) (l : Location) (f : PlannedFile) (files : List PlannedFile) :
    t.lastAt l (f :: files) =
      (t.lastAt l files).or (if t.locate f.path = .ok l then some f else none) := by
  simp [lastAt, List.findRev?_eq_find?_reverse, List.find?_append, List.find?_singleton]

theorem lastAt_eq_none_iff : t.lastAt l files = none ↔ ∀ f ∈ files, t.locate f.path ≠ .ok l := by
  simp [lastAt, List.findRev?_eq_find?_reverse]

theorem lastAt_spec (h : t.lastAt l files = some f) : f ∈ files ∧ t.locate f.path = .ok l := by
  rw [lastAt, List.findRev?_eq_find?_reverse] at h
  exact ⟨List.mem_reverse.1 (List.mem_of_find?_eq_some h), by simpa using List.find?_some h⟩

/-- Each of the files is held, each place holds the last file for it, and the other places are as
they were but for new directories. -/
structure Delivered (t u : FileTree) (files : List PlannedFile) : Prop where
  grown : t.Grows u
  held : ∀ f ∈ files, ∃ l, u.Holds f.path l
  written : ∀ l f, u.lastAt l files = some f → u.entryAt l = some (.file (Text.encode f.contents))
  others : ∀ l, u.lastAt l files = none → KeptOrMade (t.entryAt l) (u.entryAt l)

theorem Delivered.nil (t : FileTree) : Delivered t t [] :=
  ⟨.refl t, by simp, by simp [lastAt], fun _ _ => .inl rfl⟩

/-- A file delivered before others is lost where one of them comes to its place, and stays else. -/
theorem Delivered.cons (first : t.deliver f.path (Text.encode f.contents) = (v, .ok ()))
    (later : Delivered v u files) : Delivered t u (f :: files) := by
  obtain ⟨w, m, added, free, rfl, holds⟩ := deliver_spec first
  have grown := later.grown
  have place : u.locate f.path = .ok m := (holds.mono grown).place
  refine ⟨(added.grows.trans (.put_file free _)).trans grown, ?_, fun l g last => ?_,
    fun l none => ?_⟩
  · rw [List.forall_mem_cons]
    exact ⟨⟨m, holds.mono grown⟩, later.held⟩
  · rw [lastAt_cons] at last
    cases more : u.lastAt l files with
    | some g' =>
      rw [more, Option.some_or] at last
      cases last
      exact later.written l g more
    | none =>
      rw [more, Option.none_or, place] at last
      split at last
      · rename_i here
        cases here
        cases last
        exact (later.others m more).file_iff.2
          (entryAt_put_self w (ne_nil_of_not_directory free) _)
      · cases last
  · rw [lastAt_cons, Option.or_eq_none_iff, place] at none
    have elsewhere : l ≠ m := by
      rintro rfl
      simp at none
    have kept := later.others l none.1
    rw [entryAt_put_ne w elsewhere] at kept
    exact (added.places l).trans kept

theorem delivered_of_writeFiles (h : writeFiles t files = (u, .ok ())) : Delivered t u files := by
  induction files generalizing t with
  | nil =>
    cases h
    exact .nil _
  | cons f files ih =>
    rw [writeFiles] at h
    cases first : t.deliver f.path (Text.encode f.contents) with
    | mk v r =>
      rw [first] at h
      cases r with
      | error fault => cases h
      | ok _ => exact .cons first (ih h)

theorem Delivered.readText {g : PlannedFile} (h : Delivered t u files) (mem : f ∈ files)
    (place : u.locate f.path = .ok l) (last : u.lastAt l files = some g) :
    u.readText f.path = .ok g.contents := by
  obtain ⟨m, holds⟩ := h.held f mem
  rw [holds.place] at place
  cases place
  exact holds.readText (h.written _ g last)

theorem Delivered.file_iff {x : ByteArray} (h : Delivered t u files)
    (none : ∀ f ∈ files, u.locate f.path ≠ .ok l) :
    u.entryAt l = some (.file x) ↔ t.entryAt l = some (.file x) :=
  (h.others l (lastAt_eq_none_iff.2 none)).file_iff

theorem lastAt_of_nodup (apart : (files.map fun f => t.locate f.path).Nodup) (mem : f ∈ files)
    (place : t.locate f.path = .ok l) : t.lastAt l files = some f := by
  cases last : t.lastAt l files with
  | none => exact absurd place (lastAt_eq_none_iff.1 last f mem)
  | some g =>
    obtain ⟨mem', place'⟩ := lastAt_spec last
    rw [List.inj_on_of_nodup_map apart mem' mem (place'.trans place.symm)]

section Apart

variable {first : PlannedFile} (delivered : Delivered t u (first :: files))
  (apart : (files.map fun f => u.locate f.path).Nodup)

include apart in
theorem lastAt_behind_first (mem : f ∈ files) (place : u.locate f.path = .ok l) :
    u.lastAt l (first :: files) = some f := by
  rw [lastAt_cons, lastAt_of_nodup apart mem place, Option.some_or]

include delivered

theorem readText_first (alone : ∀ f ∈ files, u.locate f.path ≠ u.locate first.path) :
    u.readText first.path = .ok first.contents := by
  obtain ⟨l, holds⟩ := delivered.held first List.mem_cons_self
  have none : u.lastAt l files = none :=
    lastAt_eq_none_iff.2 fun f mem place => alone f mem (place.trans holds.place.symm)
  refine delivered.readText List.mem_cons_self holds.place ?_
  rw [lastAt_cons, none, Option.none_or, if_pos holds.place]

include apart

theorem readText_behind_first (mem : f ∈ files) : u.readText f.path = .ok f.contents := by
  obtain ⟨l, holds⟩ := delivered.held f (List.mem_cons_of_mem first mem)
  exact delivered.readText (List.mem_cons_of_mem first mem) holds.place
    (lastAt_behind_first apart mem holds.place)

theorem readText_first_of_shared (mem : f ∈ files)
    (shared : u.locate f.path = u.locate first.path) :
    u.readText first.path = .ok f.contents := by
  obtain ⟨l, holds⟩ := delivered.held first List.mem_cons_self
  exact delivered.readText List.mem_cons_self holds.place
    (lastAt_behind_first apart mem (shared.trans holds.place))

end Apart

end HeaderForge
