import CodeIndex.Json
/-!
# Kinds

An index numbers the kinds of its symbols, their languages and the kinds of a unit's dependencies.
A number without a name is kept as it is.
-/
namespace CodeIndex

inductive SymbolKind where
  | unknown
  | moduleScope
  | namespaceScope
  | namespaceAlias
  | macroName
  | enumType
  | structType
  | classType
  | protocolType
  | extensionScope
  | unionType
  | typeAlias
  | function
  | variableName
  | fieldName
  | enumConstant
  | instanceMethod
  | classMethod
  | staticMethod
  | instanceProperty
  | classProperty
  | staticProperty
  | constructorMethod
  | destructorMethod
  | conversionFunction
  | parameterName
  | usingName
  | conceptName
  | commentTag
  | other (raw : UInt32)
  deriving DecidableEq, Repr

namespace SymbolKind

/-- The named kinds with their numbers and names. -/
def named : List (UInt32 × SymbolKind × String) :=
  [(0, .unknown, "Unknown"), (1, .moduleScope, "Module"), (2, .namespaceScope, "Namespace"),
   (3, .namespaceAlias, "NamespaceAlias"), (4, .macroName, "Macro"), (5, .enumType, "Enum"),
   (6, .structType, "Struct"), (7, .classType, "Class"), (8, .protocolType, "Protocol"),
   (9, .extensionScope, "Extension"), (10, .unionType, "Union"), (11, .typeAlias, "TypeAlias"),
   (12, .function, "Function"), (13, .variableName, "Variable"), (14, .fieldName, "Field"),
   (15, .enumConstant, "EnumConstant"), (16, .instanceMethod, "InstanceMethod"),
   (17, .classMethod, "ClassMethod"), (18, .staticMethod, "StaticMethod"),
   (19, .instanceProperty, "InstanceProperty"), (20, .classProperty, "ClassProperty"),
   (21, .staticProperty, "StaticProperty"), (22, .constructorMethod, "Constructor"),
   (23, .destructorMethod, "Destructor"), (24, .conversionFunction, "ConversionFunction"),
   (25, .parameterName, "Parameter"), (26, .usingName, "Using"), (27, .conceptName, "Concept"),
   (1000, .commentTag, "CommentTag")]

def ofRaw (raw : UInt32) : SymbolKind :=
  match named.find? (·.1 == raw) with
  | some entry => entry.2.1
  | none => .other raw

def name? (kind : SymbolKind) : Option String :=
  (named.find? (·.2.1 == kind)).map (·.2.2)

/-- The name, or the number of a kind without one. -/
def describe (kind : SymbolKind) : String :=
  match kind with
  | .other raw => s!"Other({raw})"
  | named => named.name?.getD ""

def toJson (kind : SymbolKind) : Json :=
  match kind with
  | .other raw => .object [("Other", .number raw.toNat)]
  | named => .string named.describe

def isCallable : SymbolKind → Bool
  | .function | .instanceMethod | .classMethod | .staticMethod | .constructorMethod
  | .destructorMethod | .conversionFunction => true
  | _ => false

end SymbolKind

inductive SymbolLanguage where
  | c
  | objectiveC
  | cPlusPlus
  | swift
  | other (raw : UInt32)
  deriving DecidableEq, Repr

namespace SymbolLanguage

def ofRaw (raw : UInt32) : SymbolLanguage :=
  if raw = 0 then .c else if raw = 1 then .objectiveC else if raw = 2 then .cPlusPlus
  else if raw = 100 then .swift else .other raw

def describe : SymbolLanguage → String
  | .c => "C"
  | .objectiveC => "ObjC"
  | .cPlusPlus => "Cxx"
  | .swift => "Swift"
  | .other raw => s!"Other({raw})"

def toJson : SymbolLanguage → Json
  | .other raw => .object [("Other", .number raw.toNat)]
  | named => .string named.describe

end SymbolLanguage

inductive DependencyKind where
  | unit
  | record
  | file
  | unknown (raw : UInt32)
  deriving DecidableEq, Repr

namespace DependencyKind

def ofRaw (raw : UInt32) : DependencyKind :=
  if raw = 1 then .unit else if raw = 2 then .record else if raw = 3 then .file else .unknown raw

def describe : DependencyKind → String
  | .unit => "Unit"
  | .record => "Record"
  | .file => "File"
  | .unknown raw => s!"Unknown({raw})"

def toJson : DependencyKind → Json
  | .unknown raw => .object [("Unknown", .number raw.toNat)]
  | named => .string named.describe

end DependencyKind

end CodeIndex
