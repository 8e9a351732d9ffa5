import HeaderForge.Text.Basic

/-! What a header defines: functions with their template parameters, signature and body, and how
each part is written on one line. A declaration is always written with its return type after the
parameters, so a return type taken from there is written back where it stood. -/

namespace HeaderForge

structure TemplateParameter where
  typeName : Text
  variableName : Text
  defaultValue : Text
  deriving DecidableEq, Repr

/-- A function parameter. The type carries its qualifiers, ` const`, `&` and `...` in that order. -/
structure FunctionParameter where
  typeName : Text
  name : Text
  defaultValue : Text
  deriving DecidableEq, Repr

inductive Modifier
  | nodiscard
  | constexpr
  deriving DecidableEq, Repr

structure Declaration where
  modifiers : List Modifier
  name : Text
  parameters : List FunctionParameter
  returnType : Text
  deriving DecidableEq, Repr

structure Definition where
  templateParameters : List TemplateParameter
  declaration : Declaration
  body : Text
  deriving DecidableEq, Repr

def Modifier.spelling : Modifier → Text
  | nodiscard => "[[nodiscard]]".toList
  | constexpr => "constexpr".toList

def displayEntry (typeName name defaultValue : Text) : Text :=
  typeName ++ ' ' :: name ++ if defaultValue = [] then [] else " = ".toList ++ defaultValue

def TemplateParameter.display (p : TemplateParameter) : Text :=
  displayEntry p.typeName p.variableName p.defaultValue

def FunctionParameter.display (p : FunctionParameter) : Text :=
  displayEntry p.typeName p.name p.defaultValue

def commaSeparated (entries : List Text) : Text := ", ".toList.intercalate entries

def displayTemplateList (ps : List TemplateParameter) : Text :=
  "template <".toList ++ commaSeparated (ps.map (·.display)) ++ ['>']

def Declaration.display (d : Declaration) : Text :=
  d.modifiers.flatMap (fun m => m.spelling ++ [' ']) ++ "auto ".toList ++ d.name ++
    '(' :: commaSeparated (d.parameters.map (·.display)) ++ ") -> ".toList ++ d.returnType

def Definition.display (d : Definition) : Text :=
  displayTemplateList d.templateParameters ++ ' ' :: d.declaration.display

end HeaderForge
