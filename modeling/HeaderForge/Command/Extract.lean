import HeaderForge.Command.Outcome
import HeaderForge.Files
import HeaderForge.Glob.Expansion
import HeaderForge.Render.Format

/-! The command that extracts definitions from headers: from the standard input, or from the files
that its arguments name, each once and in path order. An argument is a file, a directory whose
headers are meant, or a pattern. -/

namespace HeaderForge.Command.Extract

inductive Key
  | function
  | format
  | pretty
  | verbose
  deriving DecidableEq, Repr

def switches : List (Switch Key) :=
  [⟨.function, some 'n', "function".toList, .many, true⟩,
    ⟨.format, some 'f', "format".toList, .single, true⟩,
    ⟨.pretty, none, "pretty".toList, .flag, true⟩,
    ⟨.verbose, some 'v', "verbose".toList, .flag, true⟩]

structure Options where
  files : List Text
  names : List Text
  format : Text
  pretty : Bool
  verbose : Bool
  deriving DecidableEq, Repr

def readOptions (args : List Text) : Except Refusal Options :=
  (Switch.read switches true args).map fun found => {
    files := found.positionals
    names := found.values .function
    format := (found.value? .format).getD "json".toList
    pretty := found.has .pretty
    verbose := found.has .verbose }

def isHeader (p : Path) : Bool :=
  ["hh".toList, "hpp".toList, "h".toList].any fun e => p.extension? == some e

def expand (t : FileTree) (argument : Text) : Except Outcome (List Path) :=
  let p : Path := ⟨argument⟩
  if t.isFile p then .ok [p]
  else if t.isDirectory p then
    match t.locate p with
    | .error _ => .ok []
    | .ok l =>
        .ok (((t.children l).map fun n => p.join ⟨n⟩).filter fun q => t.isFile q && isHeader q)
  else
    match Glob.Pattern.ofText argument with
    | .error fault =>
        .error (.failure ("invalid glob pattern: ".toList ++ argument) [fault.message])
    | .ok pattern =>
      match (pattern.expand t).filter t.isFile with
      | [] => .error (.failure ("no files matched: ".toList ++ argument) [])
      | files => .ok files

/-- How the files of each argument are ordered, by the number of arguments behind it. The system
that lists them has an order of its own. -/
abbrev Arrangement := Nat → List Path → List Path

def expandAll (arrange : Arrangement) (t : FileTree) : List Text → Except Outcome (List Path)
  | [] => .ok []
  | a :: rest =>
    match expand t a with
    | .error o => .error o
    | .ok files => (expandAll arrange t rest).map (arrange rest.length files ++ ·)

def dropRepeats : List Path → List Path
  | [] => []
  | [p] => [p]
  | p :: q :: rest => if p.same q then dropRepeats (p :: rest) else p :: dropRepeats (q :: rest)

def select (arrange : Arrangement) (t : FileTree) (arguments : List Text) :
    Except Outcome (List Path) :=
  (expandAll arrange t arguments).map fun files => dropRepeats (files.mergeSort Path.le)

def readAll (t : FileTree) (names : List Text) : List Path → Except Outcome (List Definition)
  | [] => .ok []
  | p :: rest =>
    match readHeaderFile t p names with
    | .error f => .error (.within ("failed to parse ".toList ++ p.text) f)
    | .ok ds => (readAll t names rest).map (ds ++ ·)

def readInput (names : List Text) (input : ByteArray) : Except Outcome (List Definition) :=
  match Text.decode? input with
  | none => .error (.failure "failed to read stdin".toList [Reason.invalidUtf8.message])
  | some text =>
    match readHeader text names with
    | .error e => .error (.within "failed to parse stdin".toList (.header e))
    | .ok ds => .ok ds

def definitions (arrange : Arrangement) (o : Options) (t : FileTree) (input : ByteArray) :
    Except Outcome (List Definition) :=
  if o.files = [] then readInput o.names input
  else
    match select arrange t o.files with
    | .error e => .error e
    | .ok paths => readAll t o.names paths

def runOptions (arrange : Arrangement) (o : Options) (t : FileTree) (input : ByteArray) :
    Outcome :=
  match Format.ofName? o.format o.pretty with
  | none => .failure (Format.unknownMessage o.format) []
  | some format =>
    match definitions arrange o t input with
    | .error e => e
    | .ok ds => .success (format.render ds)

def run (args : List Text) (t : FileTree) (input : ByteArray) : Outcome :=
  match readOptions args with
  | .error r => .ofRefusal r
  | .ok o => runOptions (fun _ files => files) o t input

end HeaderForge.Command.Extract
