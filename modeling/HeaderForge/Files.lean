import HeaderForge.Catalog.Reader
import HeaderForge.FileTree
import HeaderForge.Header
import HeaderForge.Plan

/-! Work on files: the definitions in a header and the catalog in a TOML file are read, and planned
files are written in plan order, up to the first that cannot be written. What can go wrong is the
file itself, the header in it or the catalog in it. -/

namespace HeaderForge

inductive Failure
  | file (fault : FileFault)
  | header (error : ReadError)
  | catalog (fault : Catalog.ReadFault)
  deriving DecidableEq, Repr

namespace Failure

def message : Failure → Text
  | file fault => fault.message
  | header error => error.message
  | catalog fault => fault.message

def causes : Failure → List Text
  | file fault => [fault.reason.message]
  | header _ => []
  | catalog (.document fault) => [fault.message]
  | catalog (.names _) => []

end Failure

def readHeaderFile (t : FileTree) (p : Path) (names : List Text) :
    Except Failure (List Definition) :=
  match t.readText p with
  | .error fault => .error (.file fault)
  | .ok text =>
    match readHeader text names with
    | .error e => .error (.header e)
    | .ok ds => .ok ds

def loadCatalog (t : FileTree) (p : Path) : Except Failure Catalog :=
  match t.readText p with
  | .error fault => .error (.file fault)
  | .ok text =>
    match Catalog.ofText text with
    | .error fault => .error (.catalog fault)
    | .ok c => .ok c

def writeFiles (t : FileTree) : List PlannedFile → FileTree × Except FileFault Unit
  | [] => (t, .ok ())
  | f :: files =>
    match t.deliver f.path (Text.encode f.contents) with
    | (u, .error fault) => (u, .error fault)
    | (u, .ok ()) => writeFiles u files

/-- Writes the files of a plan and tells their paths. A faulty catalog has no plan, and then
nothing is written. -/
def generate (t : FileTree) (c : Catalog) (d : Destination) :
    FileTree × Except Failure (List Path) :=
  match plan c d with
  | .error fault => (t, .error (.catalog (.names fault)))
  | .ok files =>
    match writeFiles t files with
    | (u, .error fault) => (u, .error (.file fault))
    | (u, .ok ()) => (u, .ok (files.map (·.path)))

end HeaderForge
