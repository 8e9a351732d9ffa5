import HeaderForge.FileTree

/-! Trees that grow. No operation on a tree takes anything away: a directory stays one, and where a
file was there is a file, so a path that leads somewhere leads there ever after. Making directories
puts them at free places only and changes nothing else. -/

namespace HeaderForge.FileTree

variable {t u v : FileTree} {k l m : Location} {p : Path} {piece : Text} {x y : ByteArray}
  {e e' : Entry}

theorem putEntry_putEntry (l : Location) (e e' : Entry) (entries : List (Location × Entry)) :
    putEntry l e (putEntry l e' entries) = putEntry l e entries := by
  induction entries with
  | nil => simp [putEntry]
  | cons z entries ih =>
    by_cases h : z.1 = l
    · simp [putEntry, h]
    · simp [putEntry, h, ih]

theorem putEntry_self {entries : List (Location × Entry)} (h : entries.lookup l = some e) :
    putEntry l e entries = entries := by
  induction entries with
  | nil => cases h
  | cons z entries ih =>
    obtain ⟨k, w⟩ := z
    by_cases same : k = l
    · subst same
      rw [List.lookup_cons_self] at h
      cases h
      simp [putEntry]
    · rw [List.lookup_cons, beq_false_of_ne (Ne.symm same)] at h
      simp [putEntry, same, ih h]

theorem putEntry_comm {entries : List (Location × Entry)} (ne : l ≠ m)
    (taken : entries.lookup l ≠ none) (e e' : Entry) :
    putEntry l e (putEntry m e' entries) = putEntry m e' (putEntry l e entries) := by
  induction entries with
  | nil => exact absurd rfl taken
  | cons z entries ih =>
    obtain ⟨k, w⟩ := z
    by_cases first : k = l
    · subst first
      simp [putEntry, ne]
    · rw [List.lookup_cons, beq_false_of_ne (Ne.symm first)] at taken
      by_cases second : k = m
      · subst second
        simp [putEntry, first]
      · simp [putEntry, first, second, ih taken]

theorem put_put (t : FileTree) (l : Location) (e e' : Entry) :
    (t.put l e').put l e = t.put l e := by
  simp [put, putEntry_putEntry]

theorem entryAt_of_ne (h : l ≠ []) : t.entryAt l = t.entries.lookup l := if_neg h

theorem ne_nil_of_not_directory (h : t.entryAt l ≠ some .directory) : l ≠ [] := by
  rintro rfl
  exact h rfl

theorem ne_nil_of_file (h : t.entryAt l = some (.file x)) : l ≠ [] :=
  ne_nil_of_not_directory (t := t) (by simp [h])

theorem put_self (h : t.entryAt l = some (.file x)) : t.put l (.file x) = t := by
  rw [entryAt_of_ne (ne_nil_of_file h)] at h
  simp [put, putEntry_self h]

theorem put_comm (h : t.entryAt l = some (.file x)) (ne : l ≠ m) (e e' : Entry) :
    (t.put l e).put m e' = (t.put m e').put l e := by
  rw [entryAt_of_ne (ne_nil_of_file h)] at h
  have taken : t.entries.lookup l ≠ none := by simp [h]
  simp [put, putEntry_comm ne taken]

/-- Directories stay, and where a file was there is a file. -/
structure Grows (t u : FileTree) : Prop where
  start : u.workingDirectory = t.workingDirectory
  directory : ∀ l, t.entryAt l = some .directory → u.entryAt l = some .directory
  file : ∀ l x, t.entryAt l = some (.file x) → ∃ y, u.entryAt l = some (.file y)

theorem Grows.refl (t : FileTree) : t.Grows t := ⟨rfl, fun _ h => h, fun _ x h => ⟨x, h⟩⟩

theorem Grows.trans (h : t.Grows u) (h' : u.Grows v) : t.Grows v where
  start := h'.start.trans h.start
  directory l at_l := h'.directory l (h.directory l at_l)
  file l x at_l := by
    obtain ⟨y, next⟩ := h.file l x at_l
    exact h'.file l y next

theorem Grows.put_file (h : t.entryAt l ≠ some .directory) (x : ByteArray) :
    t.Grows (t.put l (.file x)) := by
  refine ⟨rfl, fun m at_m => ?_, fun m y at_m => ?_⟩
  · have elsewhere : m ≠ l := by
      rintro rfl
      exact h at_m
    rw [entryAt_put_ne t elsewhere, at_m]
  · by_cases same : m = l
    · rw [same, entryAt_put_self t (ne_nil_of_not_directory h)]
      exact ⟨x, rfl⟩
    · rw [entryAt_put_ne t same, at_m]
      exact ⟨y, rfl⟩

theorem Grows.step (h : t.Grows u) (ok : t.step l piece = .ok m) : u.step l piece = .ok m := by
  unfold FileTree.step at ok ⊢
  cases at_l : t.entryAt l with
  | none => rw [at_l] at ok; cases ok
  | some entry =>
    cases entry with
    | file x => rw [at_l] at ok; cases ok
    | directory =>
      rw [at_l] at ok
      rw [h.directory l at_l]
      exact ok

theorem Grows.steps (h : t.Grows u) {pieces : List Text} (ok : pieces.foldlM t.step l = .ok m) :
    pieces.foldlM u.step l = .ok m := by
  induction pieces generalizing l with
  | nil => exact ok
  | cons piece pieces ih =>
    rw [List.foldlM_cons] at ok ⊢
    cases first : t.step l piece with
    | error r => rw [first] at ok; cases ok
    | ok k =>
      rw [first] at ok
      rw [h.step first]
      exact ih ok

theorem locate_eq_ok_iff : t.locate p = .ok l ↔ '\x00' ∉ p.text ∧ p.text ≠ [] ∧
    p.segments.foldlM t.step (if p.isAbsolute then [] else t.workingDirectory) = .ok l := by
  unfold locate
  split
  · rename_i nul
    simp [nul]
  · rename_i nul
    split
    · rename_i empty
      simp [empty]
    · rename_i ne
      simp [nul, ne]

theorem Grows.locate (h : t.Grows u) (ok : t.locate p = .ok l) : u.locate p = .ok l := by
  rw [locate_eq_ok_iff] at ok ⊢
  rw [h.start]
  exact ⟨ok.1, ok.2.1, h.steps ok.2.2⟩

theorem isDirectory_iff :
    t.isDirectory p = true ↔ ∃ l, t.locate p = .ok l ∧ t.entryAt l = some .directory := by
  unfold isDirectory find
  cases place : t.locate p with
  | error r => simp
  | ok l =>
    cases at_l : t.entryAt l with
    | none => simp [at_l]
    | some entry =>
      cases entry with
      | directory => simp [at_l]
      | file x =>
        by_cases slash : p.text.getLast? = some '/' <;> simp [at_l, slash]

theorem Grows.isDirectory (h : t.Grows u) (ok : t.isDirectory p = true) :
    u.isDirectory p = true := by
  rw [isDirectory_iff] at ok ⊢
  obtain ⟨l, place, at_l⟩ := ok
  exact ⟨l, h.locate place, h.directory l at_l⟩

def KeptOrMade (before after : Option Entry) : Prop :=
  after = before ∨ before = none ∧ after = some .directory

theorem KeptOrMade.trans {a b c : Option Entry} (h : KeptOrMade a b) (h' : KeptOrMade b c) :
    KeptOrMade a c := by
  rcases h with rfl | ⟨rfl, rfl⟩
  · exact h'
  · rcases h' with rfl | ⟨nothing, -⟩
    · exact .inr ⟨rfl, rfl⟩
    · cases nothing

theorem KeptOrMade.file_iff {a b : Option Entry} (h : KeptOrMade a b) :
    b = some (.file x) ↔ a = some (.file x) := by
  rcases h with rfl | ⟨rfl, rfl⟩
  · exact Iff.rfl
  · simp

/-- The one tree is the other with new directories. -/
structure AddsDirectories (t u : FileTree) : Prop where
  start : u.workingDirectory = t.workingDirectory
  places : ∀ l, KeptOrMade (t.entryAt l) (u.entryAt l)

theorem AddsDirectories.refl (t : FileTree) : t.AddsDirectories t := ⟨rfl, fun _ => .inl rfl⟩

theorem AddsDirectories.trans (h : t.AddsDirectories u) (h' : u.AddsDirectories v) :
    t.AddsDirectories v :=
  ⟨h'.start.trans h.start, fun l => (h.places l).trans (h'.places l)⟩

theorem AddsDirectories.grows (h : t.AddsDirectories u) : t.Grows u := by
  refine ⟨h.start, fun l at_l => ?_, fun l x at_l => ⟨x, (h.places l).file_iff.2 at_l⟩⟩
  rcases h.places l with same | ⟨nothing, -⟩
  · rw [same, at_l]
  · rw [nothing] at at_l
    cases at_l

theorem makeDirectory_eq_ok (h : t.makeDirectory p = .ok u) :
    ∃ l, t.locate p = .ok l ∧ t.entryAt l = none ∧ u = t.put l .directory := by
  unfold makeDirectory at h
  cases place : t.locate p with
  | error r => rw [place] at h; cases h
  | ok l =>
    rw [place] at h
    cases at_l : t.entryAt l with
    | some e => simp only [at_l] at h; cases h
    | none =>
      simp only [at_l] at h
      cases h
      exact ⟨l, rfl, at_l, rfl⟩

theorem entryAt_makeDirectory (free : t.entryAt l = none) :
    (t.put l .directory).entryAt l = some .directory :=
  entryAt_put_self t (ne_nil_of_not_directory (t := t) (by simp [free])) _

theorem addsDirectories_makeDirectory (h : t.makeDirectory p = .ok u) : t.AddsDirectories u := by
  obtain ⟨l, -, free, rfl⟩ := makeDirectory_eq_ok h
  refine ⟨rfl, fun m => ?_⟩
  by_cases same : m = l
  · rw [same]
    exact .inr ⟨free, entryAt_makeDirectory free⟩
  · exact .inl (entryAt_put_ne t same _)

theorem isDirectory_makeDirectory (h : t.makeDirectory p = .ok u) : u.isDirectory p = true := by
  have grown := (addsDirectories_makeDirectory h).grows
  obtain ⟨l, place, free, rfl⟩ := makeDirectory_eq_ok h
  exact isDirectory_iff.2 ⟨l, grown.locate place, entryAt_makeDirectory free⟩

theorem makeAll_of_makeDirectory {R : FileTree → FileTree → Prop} (refl : ∀ t, R t t)
    (trans : ∀ {t u v}, R t u → R u v → R t v) {ps : List Path}
    (each : ∀ p ∈ ps, ∀ {t u}, t.makeDirectory p = .ok u → R t u) (t : FileTree) :
    R t (t.makeAll ps).1 := by
  -- Each path is made after those behind it.
  induction ps with
  | nil => exact refl t
  | cons p parents ih =>
    obtain ⟨first, others⟩ := List.forall_mem_cons.1 each
    have above := ih others
    rw [makeAll]
    split
    · exact refl t
    · split
      · rename_i made
        exact first made
      · split
        · rename_i made
          rwa [made] at above
        · rename_i u made
          rw [made] at above
          split
          · rename_i made
            exact trans above (first made)
          · exact above
      · exact refl t

theorem addsDirectories_makeAll (t : FileTree) (ps : List Path) :
    t.AddsDirectories (t.makeAll ps).1 :=
  makeAll_of_makeDirectory .refl .trans (fun _ _ _ _ => addsDirectories_makeDirectory) t

theorem isDirectory_of_passed {r : Reason}
    (h : (t, if t.isDirectory p then Except.ok () else .error r) = (u, .ok ())) :
    u.isDirectory p = true := by
  obtain ⟨rfl, passed⟩ := Prod.ext_iff.1 h
  by_cases there : t.isDirectory p = true
  · exact there
  · rw [if_neg there] at passed
    cases passed

theorem isDirectory_of_makeAll {parents : List Path} (ne : p.text ≠ [])
    (h : t.makeAll (p :: parents) = (u, .ok ())) : u.isDirectory p = true := by
  rw [makeAll, if_neg ne] at h
  split at h
  · rename_i made
    cases h
    exact isDirectory_makeDirectory made
  · split at h
    · cases h
    · split at h
      · rename_i made
        cases h
        exact isDirectory_makeDirectory made
      · exact isDirectory_of_passed h
  · exact isDirectory_of_passed h

theorem ancestors_eq_cons (p : Path) : ∃ parents, p.ancestors = p :: parents := by
  rw [Path.ancestors]
  split
  · exact ⟨_, rfl⟩
  · exact ⟨_, rfl⟩

theorem makeDirectories_spec (ne : p.text ≠ []) (h : t.makeDirectories p = (u, .ok ())) :
    t.AddsDirectories u ∧ u.isDirectory p = true := by
  obtain ⟨parents, ancestors⟩ := ancestors_eq_cons p
  rw [makeDirectories, ancestors] at h
  have added := addsDirectories_makeAll t (p :: parents)
  rw [h] at added
  exact ⟨added, isDirectory_of_makeAll ne h⟩

theorem makeDirectories_of_isDirectory (ne : p.text ≠ []) (h : t.isDirectory p = true) :
    t.makeDirectories p = (t, .ok ()) := by
  obtain ⟨parents, ancestors⟩ := ancestors_eq_cons p
  obtain ⟨l, place, at_l⟩ := isDirectory_iff.1 h
  have refused : t.makeDirectory p = .error .alreadyExists := by
    simp only [makeDirectory, place, at_l]
  rw [makeDirectories, ancestors, makeAll, if_neg ne, refused]
  simp only [h, if_true]

end HeaderForge.FileTree
