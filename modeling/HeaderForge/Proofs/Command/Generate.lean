import HeaderForge.Command.Generate
import HeaderForge.Proofs.Command.Arguments
import HeaderForge.Proofs.Files.Ancestors
import HeaderForge.Proofs.Files.Generation

/-! The command that generates. Nothing is written before the plan is complete, a dry run writes
nothing at all, and the paths that it tells are those that are written without it. -/

namespace HeaderForge

open FileTree

theorem loadCatalog_eq_ok_iff {t : FileTree} {p : Path} {c : Catalog} :
    loadCatalog t p = .ok c ↔ ∃ text, t.readText p = .ok text ∧
      Toml.readDocument text >>= Catalog.decode = .ok c ∧ c.InOrder := by
  unfold loadCatalog Catalog.ofText
  cases t.readText p with
  | error fault => simp
  | ok text =>
    cases decoded : Toml.readDocument text >>= Catalog.decode with
    | error fault => simp [decoded]
    | ok c' =>
      cases valid : c'.validate with
      | error fault =>
        have disorder : ¬ c'.InOrder := fun order => by
          rw [Catalog.validate_eq_ok_iff.2 order] at valid
          cases valid
        simp only [decoded, valid, Except.ok.injEq, exists_eq_left', reduceCtorEq, false_iff]
        rintro ⟨rfl, order⟩
        exact disorder order
      | ok _ =>
        have order := Catalog.validate_eq_ok_iff.1 valid
        simp only [decoded, valid, Except.ok.injEq, exists_eq_left']
        exact ⟨fun same => ⟨same, same ▸ order⟩, fun same => same.1⟩

namespace Command.Generate

variable {args : List Text} {o : Options} {t u : FileTree} {outcome : Outcome}
  {files : List PlannedFile}

def listing (files : List PlannedFile) : Text := files.flatMap fun f => f.path.text ++ ['\n']

/-- The files that are to be written with those options. -/
def IsPlanned (o : Options) (t : FileTree) (files : List PlannedFile) : Prop :=
  ∃ c, chooseCatalog o t = .ok c ∧ plan c o.destination = .ok files

theorem runOptions_of_isPlanned (planned : IsPlanned o t files) : runOptions o t =
    if o.dryRun then (t, .success (listing files))
    else
      match writeFiles t files with
      | (u, .error fault) => (u, .ofFailure (.file fault))
      | (u, .ok ()) => (u, .success []) := by
  obtain ⟨c, chosen, plan⟩ := planned
  rw [runOptions, chosen]
  simp only [plan]
  rfl

theorem runOptions_of_not_isPlanned (none : ∀ files, ¬ IsPlanned o t files) :
    ∃ outcome, runOptions o t = (t, outcome) ∧ outcome.exitCode = 1 ∧ outcome.output = [] := by
  unfold runOptions
  cases chosen : chooseCatalog o t with
  | error e =>
    refine ⟨e, rfl, ?_⟩
    unfold chooseCatalog at chosen
    split at chosen
    · cases chosen
    · split at chosen
      · cases chosen
        exact ⟨rfl, rfl⟩
      · cases chosen
  | ok c =>
    cases planned : plan c o.destination with
    | error fault =>
      refine ⟨.ofFailure (.catalog (.names fault)), ?_, rfl, rfl⟩
      simp only [planned]
    | ok files => exact absurd ⟨c, chosen, planned⟩ (none files)

theorem not_isPlanned_of_refused {p : Path} (named : o.catalog = some p)
    (refused : ¬ ∃ text c, t.readText p = .ok text ∧
      Toml.readDocument text >>= Catalog.decode = .ok c ∧ c.InOrder) (files : List PlannedFile) :
    ¬ IsPlanned o t files := by
  rintro ⟨c, chosen, -⟩
  unfold chooseCatalog at chosen
  rw [named] at chosen
  simp only at chosen
  split at chosen
  · cases chosen
  · rename_i loaded
    obtain ⟨text, read, decoded, order⟩ := loadCatalog_eq_ok_iff.1 loaded
    exact refused ⟨text, _, read, decoded, order⟩

theorem runOptions_of_dryRun (dry : o.dryRun = true) (t : FileTree) :
    (runOptions o t).1 = t ∧
      ((runOptions o t).2.exitCode = 0 → ∃ files, IsPlanned o t files) ∧
      ∀ files, IsPlanned o t files → (runOptions o t).2 = .success (listing files) := by
  have told (files : List PlannedFile) (planned : IsPlanned o t files) :
      runOptions o t = (t, .success (listing files)) := by
    rw [runOptions_of_isPlanned planned, if_pos dry]
  by_cases planned : ∃ files, IsPlanned o t files
  · refine ⟨?_, fun _ => planned, fun files planned => by rw [told files planned]⟩
    obtain ⟨files, planned⟩ := planned
    rw [told files planned]
  · obtain ⟨failed, same, code, -⟩ := runOptions_of_not_isPlanned (not_exists.1 planned)
    rw [same]
    refine ⟨rfl, fun well => ?_, fun files made => absurd ⟨files, made⟩ planned⟩
    rw [well] at code
    cases code

theorem wrote_of_runOptions (wet : o.dryRun = false) (h : runOptions o t = (u, outcome))
    (well : outcome.exitCode = 0) : ∃ files, IsPlanned o t files ∧ Wrote t u files := by
  by_cases planned : ∃ files, IsPlanned o t files
  · obtain ⟨files, planned⟩ := planned
    rw [runOptions_of_isPlanned planned, wet, if_neg Bool.false_ne_true] at h
    cases wrote : writeFiles t files with
    | mk v r =>
      rw [wrote] at h
      cases r with
      | error fault =>
        cases h
        cases well
      | ok _ =>
        cases h
        exact ⟨files, planned, wrote_of_writeFiles wrote⟩
  · obtain ⟨failed, same, code, -⟩ := runOptions_of_not_isPlanned (not_exists.1 planned)
    rw [same] at h
    cases h
    rw [code] at well
    cases well

def dryRunSwitch : Switch Key := ⟨.dryRun, none, "dry-run".toList, .flag, true⟩

theorem isLongFlag_dryRun : Switch.IsLongFlag switches dryRunSwitch :=
  ⟨⟨by decide, by decide⟩, rfl, rfl⟩

theorem readOptions_erase (accepted : readOptions args = .ok o)
    (flag : "--dry-run".toList ∈ args) : o.dryRun = true ∧
      readOptions (args.erase "--dry-run".toList) = .ok { o with dryRun := false } := by
  obtain ⟨found, read, rfl⟩ := map_eq_ok_iff.1 accepted
  obtain ⟨without, read', dry, wet, others⟩ := isLongFlag_dryRun.read_erase read flag
  refine ⟨dry, ?_⟩
  rw [readOptions, map_eq_ok_iff]
  refine ⟨without, read', ?_⟩
  have value {k : Key} (ne : k ≠ .dryRun) : without.value? k = found.value? k := by
    rw [Arguments.value?, Arguments.value?, (others k ne).1]
  have wet' : without.has .dryRun = false := wet
  simp only [value, wet', (others .verbose (by decide)).2, ne_eq, reduceCtorEq, not_false_eq_true]

theorem run_of_readOptions (accepted : readOptions args = .ok o) (t : FileTree) :
    run args t = runOptions o t := by
  rw [run, accepted]

/-- A catalog that cannot be read, parsed or validated ends an accepted run before anything is
written or told. A dry run writes nothing, and when it goes well it tells the paths of its plan;
when the run without the flag goes well, so does the dry run, and those are the paths of the files
that are written. -/
theorem run_writes_planned (accepted : readOptions args = .ok o) (t : FileTree) :
    (∀ p, o.catalog = some p →
      (¬ ∃ text c, t.readText p = .ok text ∧
        Toml.readDocument text >>= Catalog.decode = .ok c ∧ c.InOrder) →
      (run args t).1 = t ∧ (run args t).2.exitCode = 1 ∧ (run args t).2.output = []) ∧
    ("--dry-run".toList ∈ args →
      (run args t).1 = t ∧
      ((run args t).2.exitCode = 0 →
        ∃ files, IsPlanned o t files ∧ (run args t).2.output = listing files) ∧
      ∀ u outcome, run (args.erase "--dry-run".toList) t = (u, outcome) → outcome.exitCode = 0 →
        ∃ files, IsPlanned o t files ∧ (run args t).2 = .success (listing files) ∧
          Wrote t u files) := by
  rw [run_of_readOptions accepted]
  refine ⟨fun p named refused => ?_, fun flag => ?_⟩
  · obtain ⟨outcome, same, code, output⟩ :=
      runOptions_of_not_isPlanned (not_isPlanned_of_refused named refused)
    rw [same]
    exact ⟨rfl, code, output⟩
  · obtain ⟨dry, without⟩ := readOptions_erase accepted flag
    obtain ⟨same, well, told⟩ := runOptions_of_dryRun dry t
    refine ⟨same, fun code => ?_, fun u outcome ran code => ?_⟩
    · obtain ⟨files, planned⟩ := well code
      rw [told files planned]
      exact ⟨files, planned, rfl⟩
    · rw [run_of_readOptions without] at ran
      obtain ⟨files, planned, written⟩ := wrote_of_runOptions rfl ran code
      exact ⟨files, planned, told files planned, written⟩

/-- One of the parents is made to come back out of it. -/
theorem run_writes_planned_beside_parent :
    ∃ files, listing files = "d.hh\nn/../o/p.hh\n".toList ∧
      Wrote ⟨[(["c.toml".toList], .file (Text.encode "types = [['p']]".toList))], []⟩
        (run (["-o", "n/../o", "-cc.toml", "--default-header=d.hh"].map (·.toList))
          ⟨[(["c.toml".toList], .file (Text.encode "types = [['p']]".toList))], []⟩).1 files := by
  have accepted : readOptions
      (["-o", "n/../o", "--dry-run", "-cc.toml", "--default-header=d.hh"].map (·.toList)) =
        .ok ⟨⟨⟨"n/../o".toList⟩, ⟨"d.hh".toList⟩, "d.hh".toList⟩, some ⟨"c.toml".toList⟩, true,
          false⟩ := by decide
  obtain ⟨-, told⟩ := run_writes_planned accepted
    ⟨[(["c.toml".toList], .file (Text.encode "types = [['p']]".toList))], []⟩
  obtain ⟨-, -, same⟩ := told (by decide)
  obtain ⟨files, -, output, wrote⟩ := same _ _ rfl (by decide +kernel)
  have listed : (run
      (["-o", "n/../o", "--dry-run", "-cc.toml", "--default-header=d.hh"].map (·.toList))
      ⟨[(["c.toml".toList], .file (Text.encode "types = [['p']]".toList))], []⟩).2 =
        .success "d.hh\nn/../o/p.hh\n".toList := by decide +kernel
  rw [listed] at output
  exact ⟨files, (Outcome.success.inj output).symm, wrote⟩

end Command.Generate
end HeaderForge
