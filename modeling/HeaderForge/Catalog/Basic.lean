import HeaderForge.Text.Basic

/-! Catalogs list the object types and the operations between them. Names must be C++ identifiers
and must not repeat within a list; common and advanced types count as one list. -/

namespace HeaderForge

structure Catalog where
  /-- Types that get a header of their own. -/
  common : List Text
  /-- Types that only stand as the second operand of a binary operation. -/
  advanced : List Text
  unary : List Text
  binarySymmetric : List Text
  binaryAsymmetric : List Text
  deriving DecidableEq, Repr

inductive NameList
  | types
  | unary
  | binarySymmetric
  | binaryAsymmetric
  deriving DecidableEq, Repr

namespace NameList

def label : NameList → Text
  | types => "types".toList
  | unary => "functions.unary".toList
  | binarySymmetric => "functions.binary_symmetric".toList
  | binaryAsymmetric => "functions.binary_asymmetric".toList

def all : List NameList := [types, unary, binarySymmetric, binaryAsymmetric]

end NameList

inductive CatalogFault
  | notIdentifier (list : NameList) (name : Text)
  | repeated (list : NameList) (name : Text)
  deriving DecidableEq, Repr

def CatalogFault.message : CatalogFault → Text
  | notIdentifier list name =>
      "catalog entry '".toList ++ name ++ "' in ".toList ++ list.label ++
        " is not a C++ identifier".toList
  | repeated list name =>
      "catalog entry '".toList ++ name ++ "' appears twice in ".toList ++ list.label

def isIdentifier : Text → Bool
  | [] => false
  | c :: rest => (c.isAlpha || c == '_') && rest.all fun d => d.isAlphanum || d == '_'

namespace Catalog

def generatedTypes (c : Catalog) : List Text := c.common

def partnerTypes (c : Catalog) : List Text := c.common ++ c.advanced

def names (c : Catalog) : NameList → List Text
  | .types => c.partnerTypes
  | .unary => c.unary
  | .binarySymmetric => c.binarySymmetric
  | .binaryAsymmetric => c.binaryAsymmetric

def firstFault (list : NameList) : (seen : List Text) → List Text → Option CatalogFault
  | _, [] => none
  | seen, n :: rest =>
      if !isIdentifier n then some (.notIdentifier list n)
      else if n ∈ seen then some (.repeated list n)
      else firstFault list (n :: seen) rest

/-- Fails with the first fault of the first list that has one. -/
def validate (c : Catalog) : Except CatalogFault Unit :=
  match NameList.all.findSome? fun list => firstFault list [] (c.names list) with
  | some fault => .error fault
  | none => .ok ()

end Catalog
end HeaderForge
