import HeaderForge.Command.Extract
import HeaderForge.Proofs.FileTree.Spelling
import HeaderForge.ReadError
import Mathlib.Data.List.Sort

/-! Which files are read. The selection is told by what the arguments name, not by their order nor
by that in which a system lists a directory: it has every named file once, in path order, and any
two lists of that kind differ in spelling only. -/

namespace HeaderForge

namespace Glob

theorem search_wild {t : FileTree} {wantsDirectory : Bool} {ks : List Token} {parts : List Part}
    {dir : Path} {l : Location} (directory : t.isDirectory dir = true)
    (located : t.locate dir = .ok l)
    (inOrder : (t.children l).Pairwise fun m n => Text.le m n = true) :
    search t wantsDirectory (.wild ks :: parts) dir =
      (dotEntries dir ks ++ ((t.children l).map (enter dir ·)).filter
        (nameFits (.wild ks))).flatMap (search t wantsDirectory parts) := by
  rw [search, if_pos directory, pathsBelow, located]
  dsimp only
  rw [if_neg Bool.false_ne_true, List.mergeSort_of_pairwise inOrder]

end Glob

namespace Command

def Outcome.IsFailure (o : Outcome) : Prop := ∃ message causes, o = .failure message causes

namespace Extract

variable {t : FileTree} {a : Text} {args args' : List Text} {named files paths paths' : List Path}
  {p q : Path} {e : Outcome} {arrange : Arrangement}

theorem dropRepeats_subset (l : List Path) : dropRepeats l ⊆ l := by
  fun_induction dropRepeats l with
  | case1 => exact List.Subset.refl _
  | case2 => exact List.Subset.refl _
  | case3 p q rest same ih =>
    exact List.Subset.trans ih (List.cons_subset_cons p (List.subset_cons_self q rest))
  | case4 p q rest apart ih => exact List.cons_subset_cons p ih

theorem dropRepeats_covers {l : List Path} (mem : p ∈ l) :
    ∃ q ∈ dropRepeats l, q.same p = true := by
  fun_induction dropRepeats l generalizing p with
  | case1 => cases mem
  | case2 p' => exact ⟨p, mem, Path.same_iff.2 rfl⟩
  | case3 p' q rest same ih =>
    rcases List.mem_cons.1 mem with rfl | mem
    · exact ih List.mem_cons_self
    · rcases List.mem_cons.1 mem with rfl | mem
      · obtain ⟨r, hr, first⟩ := ih List.mem_cons_self
        rw [Path.same_iff] at same first
        exact ⟨r, hr, Path.same_iff.2 (first.trans same)⟩
      · exact ih (List.mem_cons_of_mem p' mem)
  | case4 p' q rest apart ih =>
    rcases List.mem_cons.1 mem with rfl | mem
    · exact ⟨p, List.mem_cons_self, Path.same_iff.2 rfl⟩
    · obtain ⟨r, hr, same⟩ := ih mem
      exact ⟨r, List.mem_cons_of_mem p' hr, same⟩

theorem dropRepeats_pairwise {l : List Path} (sorted : l.Pairwise fun p q => p.le q = true) :
    (dropRepeats l).Pairwise Path.Before := by
  -- A path that is not the same as the next stands before the next, and so before all that
  -- follow.
  fun_induction dropRepeats l with
  | case1 => exact .nil
  | case2 p => exact List.pairwise_singleton _ p
  | case3 p q rest same ih =>
    exact ih (sorted.sublist (List.Sublist.cons_cons p (List.sublist_cons_self q rest)))
  | case4 p q rest apart ih =>
    obtain ⟨first, others⟩ := List.pairwise_cons.1 sorted
    refine List.pairwise_cons.2 ⟨fun r hr => ?_, ih others⟩
    have before : p.Before q := ⟨first q List.mem_cons_self, by simpa using apart⟩
    rcases List.mem_cons.1 (dropRepeats_subset _ hr) with rfl | mem
    · exact before
    · exact before.of_le ((List.pairwise_cons.1 others).1 r mem)

/-- A file that one of the arguments names. -/
def IsNamed (t : FileTree) (args : List Text) (p : Path) : Prop :=
  ∃ a ∈ args, ∃ named, expand t a = .ok named ∧ p ∈ named

theorem expand_files_or_failure (t : FileTree) (a : Text) :
    (∃ named, expand t a = .ok named ∧ ∀ p ∈ named, t.isFile p = true) ∨
      ∃ e, expand t a = .error e ∧ e.IsFailure := by
  have among (q : Path → Bool) (ps : List Path) (h : ∀ p, q p = true → t.isFile p = true) :
      ∀ p ∈ ps.filter q, t.isFile p = true := fun p mem => h p (List.mem_filter.1 mem).2
  unfold expand
  simp only
  split
  · rename_i file
    exact .inl ⟨_, rfl, by simpa using file⟩
  · split
    · split
      · exact .inl ⟨_, rfl, nofun⟩
      · exact .inl ⟨_, rfl, among _ _ fun p kept => (Bool.and_eq_true_iff.1 kept).1⟩
    · split
      · exact .inr ⟨_, rfl, _, _, rfl⟩
      · split
        · exact .inr ⟨_, rfl, _, _, rfl⟩
        · exact .inl ⟨_, rfl, among _ _ fun p kept => kept⟩

theorem isFile_of_expand (h : expand t a = .ok named) (mem : p ∈ named) : t.isFile p = true := by
  obtain ⟨files, expanded, each⟩ | ⟨e, refused, -⟩ := expand_files_or_failure t a
  · rw [h] at expanded
    cases expanded
    exact each p mem
  · rw [h] at refused
    cases refused

theorem isFailure_of_expand (h : expand t a = .error e) : e.IsFailure := by
  obtain ⟨files, expanded, -⟩ | ⟨e', refused, failure⟩ := expand_files_or_failure t a
  · rw [h] at expanded
    cases expanded
  · rw [h] at refused
    cases refused
    exact failure

theorem IsNamed.isFile (h : IsNamed t args p) : t.isFile p = true := by
  obtain ⟨a, -, named, expanded, mem⟩ := h
  exact isFile_of_expand expanded mem

theorem expand_of_unmatched (noFile : t.isFile ⟨a⟩ = false)
    (noDirectory : t.isDirectory ⟨a⟩ = false)
    (unmatched : (∃ fault, Glob.Pattern.ofText a = .error fault) ∨
      ∃ pattern, Glob.Pattern.ofText a = .ok pattern ∧ ∀ p ∈ pattern.expand t, t.isFile p = false) :
    ∃ e, expand t a = .error e := by
  unfold expand
  simp only [noFile, noDirectory, Bool.false_eq_true, if_false]
  obtain ⟨fault, faulty⟩ | ⟨pattern, sound, none⟩ := unmatched
  · simp only [faulty]
    exact ⟨_, rfl⟩
  · have empty : (pattern.expand t).filter t.isFile = [] := by simpa using none
    simp only [sound, empty]
    exact ⟨_, rfl⟩

theorem expand_of_matched {pattern : Glob.Pattern} (noFile : t.isFile ⟨a⟩ = false)
    (noDirectory : t.isDirectory ⟨a⟩ = false) (sound : Glob.Pattern.ofText a = .ok pattern)
    (matched : (pattern.expand t).filter t.isFile ≠ []) :
    expand t a = .ok ((pattern.expand t).filter t.isFile) := by
  obtain ⟨p, files, found⟩ := List.exists_cons_of_ne_nil matched
  unfold expand
  simp only [noFile, noDirectory, Bool.false_eq_true, if_false, sound, found]

/-- An arrangement keeps what it arranges. -/
def Arrangement.Permutes (arrange : Arrangement) : Prop :=
  ∀ n files, (arrange n files).Perm files

theorem expandAll_of_error (mem : a ∈ args) (h : expand t a = .error e) :
    ∃ e, expandAll arrange t args = .error e ∧ e.IsFailure := by
  induction args with
  | nil => cases mem
  | cons b args ih =>
    rw [expandAll]
    cases first : expand t b with
    | error e' => exact ⟨e', rfl, isFailure_of_expand first⟩
    | ok named =>
      have behind : a ∈ args := by
        refine (List.mem_cons.1 mem).resolve_left ?_
        rintro rfl
        rw [h] at first
        cases first
      obtain ⟨e', rest, failure⟩ := ih behind
      simp only [rest]
      exact ⟨e', rfl, failure⟩

theorem expandAll_of_ok (permutes : arrange.Permutes)
    (h : ∀ a ∈ args, ∃ named, expand t a = .ok named) :
    ∃ files, expandAll arrange t args = .ok files ∧ ∀ p, p ∈ files ↔ IsNamed t args p := by
  induction args with
  | nil => exact ⟨[], rfl, by simp [IsNamed]⟩
  | cons a args ih =>
    obtain ⟨⟨named, first⟩, others⟩ := List.forall_mem_cons.1 h
    obtain ⟨files, rest, members⟩ := ih others
    refine ⟨arrange args.length named ++ files, ?_, fun p => ?_⟩
    · rw [expandAll, first]
      simp only [rest]
      rfl
    · rw [List.mem_append, members, (permutes args.length named).mem_iff]
      simp [IsNamed, first]

/-- Every file that the arguments name, once and in path order. -/
structure IsSelection (t : FileTree) (args : List Text) (paths : List Path) : Prop where
  named : ∀ p ∈ paths, IsNamed t args p
  covers : ∀ p, IsNamed t args p → ∃ q ∈ paths, q.same p = true
  sorted : paths.Pairwise Path.Before

theorem IsSelection.congr (same : ∀ a, a ∈ args ↔ a ∈ args') (h : IsSelection t args paths) :
    IsSelection t args' paths := by
  have members (p : Path) : IsNamed t args p ↔ IsNamed t args' p := by simp only [IsNamed, same]
  exact ⟨fun p mem => (members p).1 (h.named p mem), fun p hp => h.covers p ((members p).2 hp),
    h.sorted⟩

theorem isSelection_of_select (permutes : arrange.Permutes)
    (h : ∀ a ∈ args, ∃ named, expand t a = .ok named) :
    ∃ paths, select arrange t args = .ok paths ∧ IsSelection t args paths := by
  obtain ⟨files, expanded, members⟩ := expandAll_of_ok permutes h
  have sorted : (files.mergeSort Path.le).Pairwise fun p q => p.le q = true := by
    apply List.pairwise_mergeSort
    · exact fun p q r => Path.le_trans
    · exact fun p q => Bool.or_eq_true_iff.2 (Path.le_total p q)
  refine ⟨dropRepeats (files.mergeSort Path.le), by rw [select, expanded]; rfl,
    fun p mem => ?_, fun p hp => ?_, dropRepeats_pairwise sorted⟩
  · exact (members p).1 (List.mem_mergeSort.1 (dropRepeats_subset _ mem))
  · exact dropRepeats_covers (List.mem_mergeSort.2 ((members p).2 hp))

theorem IsSelection.unique (h : IsSelection t args paths) (h' : IsSelection t args paths') :
    paths.map Path.components = paths'.map Path.components := by
  have sorted {ps : List Path} (h : IsSelection t args ps) :
      (ps.map Path.components).Pairwise (List.Lex (Component.lt · ·)) :=
    List.pairwise_map.2 (h.sorted.imp Path.Before.lex)
  have within {ps qs : List Path} (h : IsSelection t args ps) (h' : IsSelection t args qs)
      (cs : List Component) (mem : cs ∈ ps.map Path.components) :
      cs ∈ qs.map Path.components := by
    obtain ⟨p, hp, rfl⟩ := List.mem_map.1 mem
    obtain ⟨q, hq, same⟩ := h'.covers p (h.named p hp)
    exact List.mem_map.2 ⟨q, hq, Path.same_iff.1 same⟩
  exact (sorted h).eq_of_mem_iff (sorted h') fun cs => ⟨within h h' cs, within h' h cs⟩

end Extract
end Command
end HeaderForge
