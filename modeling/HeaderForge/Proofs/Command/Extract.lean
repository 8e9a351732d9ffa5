import HeaderForge.Proofs.Command.Selection

/-! The command that extracts. What it tells depends on what its arguments name and on what stands
in those files, not on the order in which either is given, and it tells nothing unless all of it can
be read. -/

namespace HeaderForge.Command

namespace Extract

variable {t : FileTree} {fs fs' : List Text} {paths paths' : List Path} {names : List Text}
  {ds : List Definition} {e : Outcome} {arrange arrange' : Arrangement} {o : Options}
  {input : ByteArray} {out : Text}

theorem readAll_eq_ok_iff : readAll t names paths = .ok ds ↔
    ∃ each, List.Forall₂ (fun p ds => readHeaderFile t p names = .ok ds) paths each ∧
      ds = each.flatten := by
  induction paths generalizing ds with
  | nil => simp [readAll, eq_comm]
  | cons p paths ih =>
    rw [readAll]
    constructor
    · intro h
      split at h
      · cases h
      · rename_i first read
        obtain ⟨rest, below, rfl⟩ := map_eq_ok_iff.1 h
        obtain ⟨each, all, rfl⟩ := ih.1 below
        exact ⟨first :: each, .cons read all, rfl⟩
    · rintro ⟨each, all, rfl⟩
      cases all with
      | cons read all =>
        simp only [read]
        exact map_eq_ok_iff.2 ⟨_, ih.2 ⟨_, all, rfl⟩, rfl⟩

theorem exists_of_forall₂ {each : List (List Definition)} {p : Path}
    (all : List.Forall₂ (fun p ds => readHeaderFile t p names = .ok ds) paths each)
    (mem : p ∈ paths) : ∃ ds, readHeaderFile t p names = .ok ds := by
  have both : List.Forall₂ (fun p ds => (∃ ds, readHeaderFile t p names = .ok ds) ∧
      readHeaderFile t p names = .ok ds) paths each := all.imp fun p ds read => ⟨⟨ds, read⟩, read⟩
  exact ((List.forall₂_and_left _ _).1 both).1 p mem

theorem isFailure_of_readAll (h : readAll t names paths = .error e) : e.IsFailure := by
  induction paths with
  | nil => cases h
  | cons p paths ih =>
    rw [readAll] at h
    split at h
    · cases h
      exact ⟨_, _, rfl⟩
    · exact ih (map_eq_error_iff.1 h)

theorem readAll_of_same (same : paths.map Path.components = paths'.map Path.components)
    (files : ∀ p ∈ paths, t.isFile p = true) (files' : ∀ p ∈ paths', t.isFile p = true)
    (read : readAll t names paths = .ok ds) : readAll t names paths' = .ok ds := by
  obtain ⟨each, all, rfl⟩ := readAll_eq_ok_iff.1 read
  refine readAll_eq_ok_iff.2 ⟨each, ?_, rfl⟩
  clear read
  induction all generalizing paths' with
  | nil =>
    rw [List.map_nil, eq_comm, List.map_eq_nil_iff] at same
    rw [same]
    exact .nil
  | @cons p ds paths each first all ih =>
    cases paths' with
    | nil => cases same
    | cons p' paths' =>
      rw [List.map_cons, List.map_cons, List.cons.injEq] at same
      obtain ⟨file, files⟩ := List.forall_mem_cons.1 files
      obtain ⟨file', files'⟩ := List.forall_mem_cons.1 files'
      exact .cons (FileTree.readHeaderFile_of_same (Path.same_iff.2 same.1) file file' first)
        (ih same.2 files files')

theorem isFailure_of_expand_error {a : Text} (mem : a ∈ o.files) (refused : expand t a = .error e) :
    (runOptions arrange o t input).IsFailure := by
  have stopped : ∃ e', expandAll arrange t o.files = .error e' ∧ e'.IsFailure :=
    expandAll_of_error mem refused
  obtain ⟨e', all, failure⟩ := stopped
  have some : o.files ≠ [] := List.ne_nil_of_mem mem
  rw [runOptions]
  split
  · exact ⟨_, _, rfl⟩
  · have none : definitions arrange o t input = .error e' := by
      rw [definitions, if_neg some, select, all]
      rfl
    rw [none]
    exact failure

theorem definitions_of_select (ne : o.files ≠ [])
    (selected : select arrange t o.files = .ok paths) :
    definitions arrange o t input = readAll t o.names paths := by
  simp only [definitions, if_neg ne, selected]

theorem expanded_or_refused (t : FileTree) (args : List Text) :
    (∀ a ∈ args, ∃ named, expand t a = .ok named) ∨ ∃ a ∈ args, ∃ e, expand t a = .error e := by
  rw [or_iff_not_imp_left, not_forall]
  rintro ⟨a, refused⟩
  rw [Classical.not_imp, not_exists] at refused
  obtain ⟨mem, refused⟩ := refused
  cases h : expand t a with
  | error e => exact ⟨a, mem, e, h⟩
  | ok named => exact absurd h (refused named)

theorem isFailure_or_success (permutes : arrange.Permutes) (o : Options) (t : FileTree)
    (input : ByteArray) (ne : o.files ≠ []) :
    (runOptions arrange o t input).IsFailure ∨
      ∃ out, runOptions arrange o t input = .success out := by
  obtain expanded | ⟨a, mem, e, refused⟩ := expanded_or_refused t o.files
  · obtain ⟨paths, selected, -⟩ := isSelection_of_select permutes expanded
    rw [runOptions, definitions_of_select ne selected]
    split
    · exact Or.inl ⟨_, _, rfl⟩
    · split
      · rename_i fault
        exact Or.inl (isFailure_of_readAll fault)
      · exact Or.inr ⟨_, rfl⟩
  · exact Or.inl (isFailure_of_expand_error mem refused)

/-- A run on files goes well exactly if its form is known, none of its arguments is refused and
every selected file can be read. -/
theorem runOptions_eq_success_iff (permutes : arrange.Permutes) (ne : o.files ≠ []) :
    runOptions arrange o t input = .success out ↔
      (∀ a ∈ o.files, ∃ named, expand t a = .ok named) ∧
        ∃ format paths each, Format.ofName? o.format o.pretty = some format ∧
          IsSelection t o.files paths ∧
          List.Forall₂ (fun p ds => readHeaderFile t p o.names = .ok ds) paths each ∧
          out = format.render each.flatten := by
  obtain expanded | ⟨a, mem, e, refused⟩ := expanded_or_refused t o.files
  · obtain ⟨paths, selected, selection⟩ := isSelection_of_select permutes expanded
    rw [runOptions, definitions_of_select ne selected, iff_true_intro expanded, true_and]
    constructor
    · intro h
      split at h
      · cases h
      · rename_i format known
        split at h
        · rename_i e fault
          obtain ⟨message, causes, rfl⟩ := isFailure_of_readAll fault
          cases h
        · rename_i ds read
          cases h
          obtain ⟨each, all, rfl⟩ := readAll_eq_ok_iff.1 read
          exact ⟨format, paths, each, known, selection, all, rfl⟩
    · rintro ⟨format, paths', each, known, selection', all, rfl⟩
      have read := readAll_of_same (selection'.unique selection)
        (fun p mem => (selection'.named p mem).isFile)
        (fun p mem => (selection.named p mem).isFile) (readAll_eq_ok_iff.2 ⟨each, all, rfl⟩)
      simp only [known, read]
  · have failed : (runOptions arrange o t input).IsFailure := isFailure_of_expand_error mem refused
    obtain ⟨message, causes, failure⟩ := failed
    rw [failure]
    refine iff_of_false nofun fun all => ?_
    obtain ⟨named, expanded⟩ := all.1 a mem
    rw [refused] at expanded
    cases expanded

theorem ne_nil_of_same_members (same : ∀ a, a ∈ fs ↔ a ∈ fs') (ne : fs ≠ []) : fs' ≠ [] := by
  obtain ⟨a, mem⟩ := List.exists_mem_of_ne_nil fs ne
  exact List.ne_nil_of_mem ((same a).1 mem)

theorem success_of_same_members (ne : fs ≠ []) (same : ∀ a, a ∈ fs ↔ a ∈ fs')
    (permutes : arrange.Permutes) (permutes' : arrange'.Permutes)
    (h : runOptions arrange { o with files := fs } t input = .success out) :
    runOptions arrange' { o with files := fs' } t input = .success out := by
  have ne' : fs' ≠ [] := ne_nil_of_same_members same ne
  obtain ⟨expanded, format, paths, each, known, selection, all, rendered⟩ :=
    (runOptions_eq_success_iff permutes ne).1 h
  exact (runOptions_eq_success_iff permutes' ne').2 ⟨fun a mem => expanded a ((same a).2 mem),
    format, paths, each, known, selection.congr same, all, rendered⟩

/-- Two lists of arguments with the same members end in the same way and tell the same, in whatever
order the files of each are listed. What is told are the definitions in the selected files, in the
strict order of their paths; if the form is unknown, an argument fits nothing or a selected file
cannot be read, nothing is told. -/
theorem runOptions_of_same_members (ne : fs ≠ []) (same : ∀ a, a ∈ fs ↔ a ∈ fs')
    (permutes : arrange.Permutes) (permutes' : arrange'.Permutes) (o : Options) (t : FileTree)
    (input : ByteArray) :
    ((runOptions arrange { o with files := fs } t input).exitCode =
        (runOptions arrange' { o with files := fs' } t input).exitCode ∧
      (runOptions arrange { o with files := fs } t input).output =
        (runOptions arrange' { o with files := fs' } t input).output) ∧
    ((runOptions arrange { o with files := fs } t input).exitCode = 0 →
      ∃ format paths each, Format.ofName? o.format o.pretty = some format ∧
        IsSelection t fs paths ∧
        List.Forall₂ (fun p ds => readHeaderFile t p o.names = .ok ds) paths each ∧
        (runOptions arrange { o with files := fs } t input).output =
          format.render each.flatten) ∧
    (Format.ofName? o.format o.pretty = none ∨
      (∃ a ∈ fs, t.isFile ⟨a⟩ = false ∧ t.isDirectory ⟨a⟩ = false ∧
        ((∃ fault, Glob.Pattern.ofText a = .error fault) ∨
          ∃ pattern, Glob.Pattern.ofText a = .ok pattern ∧
            ∀ p ∈ pattern.expand t, t.isFile p = false)) ∨
      (∃ p, IsNamed t fs p ∧ ∀ ds, readHeaderFile t p o.names ≠ .ok ds) →
      (runOptions arrange { o with files := fs } t input).exitCode ≠ 0 ∧
        (runOptions arrange { o with files := fs } t input).output = []) := by
  have ne' : fs' ≠ [] := ne_nil_of_same_members same ne
  have back (a : Text) : a ∈ fs' ↔ a ∈ fs := (same a).symm
  obtain ⟨message, causes, failed⟩ | ⟨out, went⟩ :=
    isFailure_or_success permutes { o with files := fs } t input ne
  · rw [failed]
    refine ⟨?_, nofun, fun _ => ⟨Nat.one_ne_zero, rfl⟩⟩
    obtain ⟨message', causes', failed'⟩ | ⟨out, went'⟩ :=
      isFailure_or_success permutes' { o with files := fs' } t input ne'
    · rw [failed']
      exact ⟨rfl, rfl⟩
    · have went := success_of_same_members ne' back permutes' permutes went'
      rw [failed] at went
      cases went
  · rw [went, success_of_same_members ne same permutes permutes' went]
    obtain ⟨expanded, format, paths, each, known, selection, all, rfl⟩ :=
      (runOptions_eq_success_iff permutes ne).1 went
    refine ⟨⟨rfl, rfl⟩, fun _ => ⟨format, paths, each, known, selection, all, rfl⟩, ?_⟩
    rintro (unknown | ⟨a, mem, noFile, noDirectory, unmatched⟩ | ⟨p, named, unread⟩)
    · rw [unknown] at known
      cases known
    · obtain ⟨named, expansion⟩ := expanded a mem
      obtain ⟨e, refused⟩ := expand_of_unmatched noFile noDirectory unmatched
      rw [refused] at expansion
      cases expansion
    · obtain ⟨q, mem, spelled⟩ := selection.covers p named
      obtain ⟨ds, read⟩ := exists_of_forall₂ all mem
      exact absurd (FileTree.readHeaderFile_of_same spelled (selection.named q mem).isFile
        named.isFile read) (unread ds)

/-- A directory that is listed either way, another spelling of a file in it, and a pattern. -/
theorem runOptions_of_same_members_listed :
    let header (name : Text) : Entry := .file (Text.encode ("template <class T>\n".toList ++
      "[[nodiscard]] constexpr auto ".toList ++ name ++ "(T x) -> T\n\x7b\n\x7d".toList))
    let t : FileTree := ⟨[(["c.inc".toList], header ['f']), ([['d']], .directory),
      ([['d'], "a.h".toList], header ['g']), ([['d'], "b.h".toList], header ['h'])], []⟩
    let o : Options := ⟨[], [], "sig".toList, false, false⟩
    let first := { o with files := ["?.i*", "d", "d/./b.h"].map (·.toList) }
    let second := { o with files := ["d/./b.h", "d", "?.i*", "d/./b.h"].map (·.toList) }
    (runOptions (fun _ files => files) first t .empty).output =
        "template <class T> [[nodiscard]] constexpr auto f(T x) -> T\n".toList ++
          "template <class T> [[nodiscard]] constexpr auto g(T x) -> T\n".toList ++
          "template <class T> [[nodiscard]] constexpr auto h(T x) -> T\n".toList ∧
      (runOptions (fun _ files => files.reverse) second t .empty).output =
        (runOptions (fun _ files => files) first t .empty).output := by
  intro header t o first second
  have members : ∀ a, a ∈ first.files ↔ a ∈ second.files := by
    simp only [first, second, List.map_cons, List.map_nil, List.mem_cons, List.not_mem_nil]
    tauto
  obtain ⟨⟨-, same⟩, -⟩ := runOptions_of_same_members (List.cons_ne_nil _ _) members
    (fun _ files => .refl files) (fun _ files => List.reverse_perm files) o t .empty
  let pattern : Glob.Pattern := ⟨⟨['.']⟩, [.wild [.anyChar, .char '.', .char 'i', .anyRun]], false⟩
  have matched : pattern.expand t = [⟨"c.inc".toList⟩] := by
    have directory : t.isDirectory ⟨['.']⟩ = true := by decide +kernel
    have located : t.locate ⟨['.']⟩ = .ok [] := by decide +kernel
    have inOrder : (t.children []).Pairwise fun m n => Text.le m n = true := by decide +kernel
    rw [Glob.Pattern.expand, Glob.search_wild directory located inOrder]
    decide +kernel
  have fitting : (pattern.expand t).filter t.isFile = [⟨"c.inc".toList⟩] := by
    rw [matched]
    decide +kernel
  have byPattern : expand t "?.i*".toList = .ok [⟨"c.inc".toList⟩] := by
    have some : (pattern.expand t).filter t.isFile ≠ [] := by
      rw [fitting]
      exact List.cons_ne_nil _ _
    rw [expand_of_matched (by decide +kernel) (by decide +kernel) (by decide +kernel) some, fitting]
  have expanded : expandAll (fun _ files => files) t first.files =
      .ok [⟨"c.inc".toList⟩, ⟨"d/a.h".toList⟩, ⟨"d/b.h".toList⟩, ⟨"d/./b.h".toList⟩] := by
    have others : expandAll (fun _ files => files) t [['d'], "d/./b.h".toList] =
        .ok [⟨"d/a.h".toList⟩, ⟨"d/b.h".toList⟩, ⟨"d/./b.h".toList⟩] := by decide +kernel
    have arguments : first.files = "?.i*".toList :: [['d'], "d/./b.h".toList] := rfl
    rw [arguments, expandAll, byPattern, others]
    rfl
  have sorted : [(⟨"c.inc".toList⟩ : Path), ⟨"d/a.h".toList⟩, ⟨"d/b.h".toList⟩,
      ⟨"d/./b.h".toList⟩].Pairwise fun p q => p.le q = true := by decide +kernel
  have selected : select (fun _ files => files) t first.files =
      .ok [⟨"c.inc".toList⟩, ⟨"d/a.h".toList⟩, ⟨"d/b.h".toList⟩] := by
    rw [select, expanded, Except.map, List.mergeSort_of_pairwise sorted, dropRepeats,
      if_neg (by decide), dropRepeats, if_neg (by decide), dropRepeats, if_pos (by decide),
      dropRepeats]
  refine ⟨?_, same.symm⟩
  rw [runOptions, definitions_of_select (List.cons_ne_nil _ _) selected]
  decide +kernel

end Extract
end HeaderForge.Command
