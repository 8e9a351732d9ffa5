import HeaderForge.Catalog.Basic
import HeaderForge.Toml.Document

/-! Catalogs written in TOML: a table `types` and perhaps a table `functions`. Either may also be
an array of its lists in order, where lists may be left out at the end and further items are not
looked at. Of the three steps the first that fails is reported: the document must be TOML, it must
have the shape of a catalog, and its names must be in order. -/

namespace HeaderForge.Catalog
open Toml (Value Fault)

def decodeNames (key : Text) : Value → Except Fault (List Text)
  | .array items =>
      items.mapM fun
        | .string t => .ok t
        | _ => .error (.wrongType key)
  | _ => .error (.wrongType key)

def checkKeys (keys : List Text) (ms : Toml.Members) : Except Fault Unit :=
  match ms.find? fun m => !keys.contains m.1 with
  | some m => .error (.unknownKey m.1)
  | none => .ok ()

/-- The values of the keys, each if it is there, from a table or from an array in key order. -/
def decodeFields (name : Text) (keys : List Text) : Value → Except Fault (List (Option Value))
  | .table _ ms => (checkKeys keys ms).map fun _ => keys.map (List.lookup · ms)
  | .array items => .ok (keys.mapIdx fun i _ => items[i]?)
  | _ => .error (.wrongType name)

def decodeList (key : Text) : Option Value → Except Fault (List Text)
  | some v => decodeNames key v
  | none => .ok []

def typeKeys : List Text := ["common".toList, "advanced".toList]

def operationKeys : List Text :=
  ["unary".toList, "binary_symmetric".toList, "binary_asymmetric".toList]

def decodeTypes (v : Value) : Except Fault (List Text × List Text) := do
  match ← decodeFields "types".toList typeKeys v with
  | [none, _] => .error (.missingKey "common".toList)
  | [common, advanced] =>
    return (← decodeList "common".toList common, ← decodeList "advanced".toList advanced)
  | _ => .error (.wrongType "types".toList)

def decodeOperations : Option Value → Except Fault (List (List Text))
  | none => .ok (operationKeys.map fun _ => [])
  | some v => do
    let fields ← decodeFields "functions".toList operationKeys v
    (operationKeys.zip fields).mapM fun (key, field) => decodeList key field

def decode (ms : Toml.Members) : Except Fault Catalog := do
  checkKeys ["types".toList, "functions".toList] ms
  match ms.lookup "types".toList with
  | none => .error (.missingKey "types".toList)
  | some types =>
    let (common, advanced) ← decodeTypes types
    match ← decodeOperations (ms.lookup "functions".toList) with
    | [unary, binarySymmetric, binaryAsymmetric] =>
      return { common, advanced, unary, binarySymmetric, binaryAsymmetric }
    | _ => .error (.wrongType "functions".toList)

inductive ReadFault
  | document (fault : Toml.Fault)
  | names (fault : CatalogFault)
  deriving DecidableEq, Repr

def ReadFault.message : ReadFault → Text
  | document fault => "invalid catalog: ".toList ++ fault.message
  | names fault => fault.message

def ofText (t : Text) : Except ReadFault Catalog :=
  match Toml.readDocument t >>= decode with
  | .error fault => .error (.document fault)
  | .ok c =>
    match c.validate with
    | .error fault => .error (.names fault)
    | .ok () => .ok c

end HeaderForge.Catalog
