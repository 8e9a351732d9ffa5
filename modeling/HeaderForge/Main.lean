import HeaderForge.Command.Program

/-! The command line. The first argument names the program and the others are its own. What its
paths lead to is loaded into a file tree, the program runs on that tree, and what it changed is
written back. -/

namespace HeaderForge.Main
open Command

def onDisk (l : Location) : String := String.ofList ('/' :: ['/'].intercalate l)

partial def load (t : FileTree) (l : Location) (depth : Nat) : IO FileTree := do
  let path := (← IO.currentDir) / onDisk l
  if ← path.isDir then
    let mut t := if l = [] then t else t.put l .directory
    if depth > 0 then
      for e in ← path.readDir do
        t ← load t (l ++ [e.fileName.toList]) (depth - 1)
    return t
  else if ← path.pathExists then
    return t.put l (.file (← IO.FS.readBinFile path))
  else return t

def isWildcard (c : Char) : Bool := c == '*' || c == '?' || c == '['

/-- Loads what a path leads past and ends at. From its first wildcard on, all below is loaded. -/
partial def follow (t : FileTree) (l : Location) : List Text → IO FileTree
  | [] => load t l 1
  | piece :: rest => do
    if piece.any isWildcard then load t l 4096
    else
      let next :=
        if piece = ['.'] then l else if piece = ['.', '.'] then l.dropLast else l ++ [piece]
      follow (← load t next 0) next rest

def followPath (t : FileTree) (p : Path) : IO FileTree :=
  follow t (if p.isAbsolute then [] else t.workingDirectory) p.segments

def placesOf (program : Program) (args : List Text) : List Path :=
  match program with
  | .extract =>
    match Extract.readOptions args with
    | .ok o => o.files.map (⟨·⟩)
    | .error _ => []
  | .generate =>
    match Generate.readOptions args with
    | .ok o => [o.destination.outDir, o.destination.defaultHeader] ++ o.catalog.toList
    | .error _ => []

def startTree : IO FileTree := do
  let l := (⟨(← IO.currentDir).toString.toList⟩ : Path).segments
  let above := (List.range l.length).map fun n => (l.take (n + 1), Entry.directory)
  return ⟨above, l⟩

def bytes? : Entry → Option (Array UInt8)
  | .file contents => some contents.data
  | .directory => none

def store (old new : FileTree) : IO Unit := do
  for (l, e) in new.entries do
    unless (old.entries.lookup l).map bytes? = some (bytes? e) do
      match e with
      | .directory => IO.FS.createDir (onDisk l)
      | .file contents => IO.FS.writeBinFile (onDisk l) contents

def run (program : Program) (args : List Text) : IO UInt32 := do
  let tree ← (placesOf program args).foldlM followPath (← startTree)
  let input ← match program, Extract.readOptions args with
    | .extract, .ok ⟨[], _, _, _, _⟩ => (← IO.getStdin).readBinToEnd
    | _, _ => pure .empty
  let (changed, outcome) := program.run args tree input
  store tree changed
  IO.print (String.ofList outcome.output)
  IO.eprint (String.ofList outcome.report)
  return outcome.exitCode.toUInt32

end HeaderForge.Main

def main (args : List String) : IO UInt32 :=
  match args.map (·.toList) with
  | [] => return 2
  | name :: rest =>
    match HeaderForge.Command.Program.ofName? name with
    | some program => HeaderForge.Main.run program rest
    | none => return 2
