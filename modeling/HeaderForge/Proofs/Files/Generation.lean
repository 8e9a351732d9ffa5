import HeaderForge.Proofs.Files.Delivery
import HeaderForge.Proofs.Path.Containment

/-! What a generation leaves behind. The headers of types are all at places of their own. Only the
path of the default header, which is compared with no other, may lead to one of these, and then the
header of the type is what it leads to. -/

namespace HeaderForge

open FileTree

variable {t u : FileTree} {l : Location} {files : List PlannedFile} {c : Catalog} {d : Destination}
  {paths : List Path} {type other : Text}

theorem step_eq_ok_of_name {k : Location} {n : Text} (here : n ≠ ['.']) (up : n ≠ ['.', '.'])
    (ok : t.step k n = .ok l) : l = k ++ [n] := by
  unfold FileTree.step at ok
  split at ok
  · cases ok
  · cases ok
  · rw [if_neg here, if_neg up] at ok
    cases ok
    rfl

theorem locate_headerPath (h : isIdentifier type = true)
    (ok : t.locate (d.headerPath type) = .ok l) : ∃ k, l = k ++ [type ++ ".hh".toList] := by
  rw [locate_eq_ok_iff, Destination.segments_headerPath d h, List.foldlM_append] at ok
  obtain ⟨-, -, steps⟩ := ok
  generalize (if (d.headerPath type).isAbsolute then [] else t.workingDirectory) = base at steps
  cases above : d.outDir.segments.foldlM t.step base with
  | error r => rw [above] at steps; cases steps
  | ok k =>
    rw [above] at steps
    have last : t.step k (type ++ ".hh".toList) = .ok l := (bind_pure _).symm.trans steps
    have suffix : 'h' ∈ type ++ ".hh".toList := List.mem_append_right _ (by decide)
    refine ⟨k, step_eq_ok_of_name (fun same => ?_) (fun same => ?_) last⟩
    · rw [same] at suffix
      exact absurd suffix (by decide)
    · rw [same] at suffix
      exact absurd suffix (by decide)

theorem headerPath_apart (h : isIdentifier type = true) (h' : isIdentifier other = true)
    (ok : t.locate (d.headerPath type) = .ok l)
    (same : t.locate (d.headerPath type) = t.locate (d.headerPath other)) : type = other := by
  obtain ⟨k, place⟩ := locate_headerPath h ok
  obtain ⟨k', place'⟩ := locate_headerPath h' (same ▸ ok)
  have names := (List.append_inj' (place.symm.trans place') rfl).2
  exact List.append_cancel_right (List.cons.inj names).1

theorem generate_eq_ok_iff : generate t c d = (u, .ok paths) ↔
    ∃ files, plan c d = .ok files ∧ writeFiles t files = (u, .ok ()) ∧
      files.map (·.path) = paths := by
  unfold generate
  cases plan c d with
  | error fault => simp
  | ok files =>
    cases written : writeFiles t files with
    | mk v r =>
      cases r with
      | error fault => simp [written]
      | ok _ => simp [written]

theorem generate_of_paths (t : FileTree) (c : Catalog) (d : Destination) (paths : List Path)
    (h : (generate t c d).2.toOption = some paths) :
    generate t c d = ((generate t c d).1, .ok paths) := by
  refine Prod.ext rfl ?_
  cases outcome : (generate t c d).2 with
  | error e => rw [outcome] at h; cases h
  | ok ps =>
    rw [outcome] at h
    cases h
    rfl

theorem plan_eq_ok (h : plan c d = .ok files) : c.InOrder ∧
    files = ⟨d.defaultHeader, Stub.defaultHeader⟩ :: c.generatedTypes.map fun type =>
      ⟨d.headerPath type, Stub.header type c d.includePath⟩ := by
  unfold plan at h
  split at h
  · cases h
  · rename_i valid
    cases h
    exact ⟨Catalog.validate_eq_ok_iff.1 valid, rfl⟩

theorem nodup_locate_headers (order : c.InOrder)
    (led : ∀ type ∈ c.generatedTypes, ∃ l, t.locate (d.headerPath type) = .ok l) :
    (c.generatedTypes.map fun type => t.locate (d.headerPath type)).Nodup := by
  have named : ∀ type ∈ c.generatedTypes, isIdentifier type = true :=
    fun type mem => order.identifiers .types type (List.mem_append_left _ mem)
  have distinct : c.generatedTypes.Nodup := (order.distinct .types).of_append_left
  refine List.Nodup.map_on (fun type mem other mem' same => ?_) distinct
  obtain ⟨l, ok⟩ := led type mem
  exact headerPath_apart (named type mem) (named other mem') ok same

/-- A generation that succeeds has written its plan: every header of a type is where its path
leads, and no two are at one place; the default header is where its path leads unless a header of a
type is there too, which then is what is read; and the other files are as they were. -/
theorem generate_delivers (h : generate t c d = (u, .ok paths)) :
    ∃ headers, plan c d = .ok (⟨d.defaultHeader, Stub.defaultHeader⟩ :: headers) ∧
      paths = d.defaultHeader :: headers.map (·.path) ∧
      (∀ f ∈ headers, u.readText f.path = .ok f.contents) ∧
      (headers.map fun f => u.locate f.path).Nodup ∧
      ((∀ f ∈ headers, u.locate f.path ≠ u.locate d.defaultHeader) →
        u.readText d.defaultHeader = .ok Stub.defaultHeader) ∧
      (∀ f ∈ headers, u.locate f.path = u.locate d.defaultHeader →
        u.readText d.defaultHeader = .ok f.contents) ∧
      ∀ l, (∀ p ∈ paths, u.locate p ≠ .ok l) →
        ∀ x, u.entryAt l = some (.file x) ↔ t.entryAt l = some (.file x) := by
  obtain ⟨files, planned, wrote, rfl⟩ := generate_eq_ok_iff.1 h
  obtain ⟨order, rfl⟩ := plan_eq_ok planned
  have delivered := delivered_of_writeFiles wrote
  have apart : ((c.generatedTypes.map fun type => (⟨d.headerPath type,
      Stub.header type c d.includePath⟩ : PlannedFile)).map fun f => u.locate f.path).Nodup := by
    rw [List.map_map]
    refine nodup_locate_headers order fun type mem => ?_
    obtain ⟨l, holds⟩ := delivered.held _ (List.mem_cons_of_mem _ (List.mem_map_of_mem mem))
    exact ⟨l, holds.place⟩
  have default := readText_first delivered
  dsimp only at default
  refine ⟨_, planned, rfl, fun f mem => readText_behind_first delivered apart mem, apart, default,
    fun f mem => readText_first_of_shared delivered apart mem,
    fun l none x => delivered.file_iff fun f mem => ?_⟩
  exact none f.path (List.mem_map.2 ⟨f, mem, rfl⟩)

/-- An old header is written over, a directory is made on the way to the default header only, and
neither path is in its shortest form. -/
theorem generate_delivers_over_file :
    ∃ u, generate
        ⟨[([['o']], .directory), ([['o'], "p.hh".toList], .file ⟨#[0]⟩)], []⟩
        ⟨[['p']], [['q']], [['f']], [], [['g']]⟩ ⟨⟨"o/".toList⟩, ⟨"n/.././d.hh".toList⟩, ['i']⟩ =
        (u, .ok [⟨"n/.././d.hh".toList⟩, ⟨"o/p.hh".toList⟩]) ∧
      u.readText ⟨"n/.././d.hh".toList⟩ = .ok Stub.defaultHeader ∧
      u.readText ⟨"o/p.hh".toList⟩ =
        .ok (Stub.header ['p'] ⟨[['p']], [['q']], [['f']], [], [['g']]⟩ ['i']) := by
  have run := generate_of_paths
    ⟨[([['o']], .directory), ([['o'], "p.hh".toList], .file ⟨#[0]⟩)], []⟩
    ⟨[['p']], [['q']], [['f']], [], [['g']]⟩ ⟨⟨"o/".toList⟩, ⟨"n/.././d.hh".toList⟩, ['i']⟩
    [⟨"n/.././d.hh".toList⟩, ⟨"o/p.hh".toList⟩] (by decide +kernel)
  obtain ⟨headers, planned, -, each, -, alone, -⟩ := generate_delivers run
  obtain ⟨-, shape⟩ := plan_eq_ok planned
  cases shape
  refine ⟨_, run, alone ?_, each _ List.mem_cons_self⟩
  decide +kernel

/-- The path of the default header leads to the place of the only type's header. -/
theorem generate_loses_default :
    ∃ u headers, plan ⟨[['p']], [], [], [], []⟩ ⟨⟨['o']⟩, ⟨"./o/p.hh".toList⟩, ['i']⟩ =
        .ok (⟨⟨"./o/p.hh".toList⟩, Stub.defaultHeader⟩ :: headers) ∧
      generate ⟨[], []⟩ ⟨[['p']], [], [], [], []⟩ ⟨⟨['o']⟩, ⟨"./o/p.hh".toList⟩, ['i']⟩ =
        (u, .ok [⟨"./o/p.hh".toList⟩, ⟨"o/p.hh".toList⟩]) ∧
      u.readText ⟨"./o/p.hh".toList⟩ ≠ .ok Stub.defaultHeader := by
  have run := generate_of_paths ⟨[], []⟩ ⟨[['p']], [], [], [], []⟩
    ⟨⟨['o']⟩, ⟨"./o/p.hh".toList⟩, ['i']⟩ [⟨"./o/p.hh".toList⟩, ⟨"o/p.hh".toList⟩]
    (by decide +kernel)
  obtain ⟨files, planned, wrote, -⟩ := generate_eq_ok_iff.1 run
  obtain ⟨-, shape⟩ := plan_eq_ok planned
  cases shape
  have read := readText_first_of_shared (delivered_of_writeFiles wrote) (List.nodup_singleton _)
    List.mem_cons_self (by decide +kernel)
  refine ⟨_, _, planned, run, ?_⟩
  rw [read]
  decide +kernel

end HeaderForge
