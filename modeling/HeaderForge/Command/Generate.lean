import HeaderForge.Catalog.Builtin
import HeaderForge.Command.Outcome
import HeaderForge.Files

/-! The command that generates stub headers from a catalog, the built-in one if none is given. A
dry run tells the paths that would be written and writes nothing. -/

namespace HeaderForge.Command.Generate

inductive Key
  | outDir
  | defaultHeader
  | include
  | catalog
  | dryRun
  | verbose
  deriving DecidableEq, Repr

def switches : List (Switch Key) :=
  [⟨.outDir, some 'o', "out-dir".toList, .single, false⟩,
    ⟨.defaultHeader, none, "default-header".toList, .single, false⟩,
    ⟨.include, none, "include".toList, .single, true⟩,
    ⟨.catalog, some 'c', "catalog".toList, .single, false⟩,
    ⟨.dryRun, none, "dry-run".toList, .flag, true⟩,
    ⟨.verbose, some 'v', "verbose".toList, .flag, true⟩]

structure Options where
  destination : Destination
  catalog : Option Path
  dryRun : Bool
  verbose : Bool
  deriving DecidableEq, Repr

/-- The include path is that of the default header unless it is given. -/
def readOptions (args : List Text) : Except Refusal Options :=
  (Switch.read switches false args).map fun found =>
    let standard := Destination.standard
    let defaultHeader := (found.value? .defaultHeader).getD standard.defaultHeader.text
    { destination := {
        outDir := ⟨(found.value? .outDir).getD standard.outDir.text⟩
        defaultHeader := ⟨defaultHeader⟩
        includePath := (found.value? .include).getD defaultHeader }
      catalog := (found.value? .catalog).map (⟨·⟩)
      dryRun := found.has .dryRun
      verbose := found.has .verbose }

def chooseCatalog (o : Options) (t : FileTree) : Except Outcome Catalog :=
  match o.catalog with
  | none => .ok .builtin
  | some p =>
    match loadCatalog t p with
    | .error f => .error (.within ("failed to load catalog ".toList ++ p.text) f)
    | .ok c => .ok c

def runOptions (o : Options) (t : FileTree) : FileTree × Outcome :=
  match chooseCatalog o t with
  | .error e => (t, e)
  | .ok c =>
    match plan c o.destination with
    | .error fault => (t, .ofFailure (.catalog (.names fault)))
    | .ok files =>
      if o.dryRun then (t, .success (files.flatMap fun f => f.path.text ++ ['\n']))
      else
        match writeFiles t files with
        | (u, .error fault) => (u, .ofFailure (.file fault))
        | (u, .ok ()) => (u, .success [])

def run (args : List Text) (t : FileTree) : FileTree × Outcome :=
  match readOptions args with
  | .error r => (t, .ofRefusal r)
  | .ok o => runOptions o t

end HeaderForge.Command.Generate
