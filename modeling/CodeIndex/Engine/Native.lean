import CodeIndex.Engine.Contents
import CodeIndex.Engine.Binding
/-!
# Native libraries

A native library that holds declared contents. It exports functions by name, all but those it lacks.
Its pointers lead to what is declared. An occurrence and a relation know their record, since the
symbols they name are counted in it.
-/
namespace CodeIndex

structure NativeLibrary where
  formatVersion : UInt32 := 5
  /-- The functions it lacks. -/
  missing : List String := []
  contents : Contents RawString NativeFailure := ⟨[], []⟩
  /-- Why no store opens. -/
  storeFailure : Option NativeFailure := none
  /-- The unit name for a file that no unit writes. -/
  derivedName : Bytes := []
  /-- Whether enumerations go on when told to stop. -/
  stubborn : Bool := false

namespace NativeLibrary

def has (lib : NativeLibrary) (name : String) : Bool := !lib.missing.contains name

/-- What a pointer of the library leads to. -/
@[reducible] def Pointer : Pointee → Type
  | .unit => UnitEntry RawString NativeFailure
  | .directive => IncludeEntry RawString
  | .dependency => DependencyEntry RawString
  | .record => RecordEntry RawString NativeFailure
  | .symbol => SymbolEntry RawString
  | .occurrence => RecordEntry RawString NativeFailure × OccurrenceEntry
  | .relation => RecordEntry RawString NativeFailure × UInt64 × Nat

def noSymbol : SymbolEntry RawString := ⟨0, 0, 0, 0, 0, 0, .null 0, .null 0, .null 0⟩

/-- The symbol at a position of a record; there is none past the end. -/
def symbolAt (r : RecordEntry RawString NativeFailure) (position : Nat) : SymbolEntry RawString :=
  r.symbols.getD position noSymbol

def unit? (lib : NativeLibrary) (name : String) : Option (UnitEntry RawString NativeFailure) :=
  lib.contents.units.find? (·.name.octets == Utf8.encode name)

def record? (lib : NativeLibrary) (name : String) : Option (RecordEntry RawString NativeFailure) :=
  lib.contents.records.find? (·.name.octets == Utf8.encode name)

def noUnit (name : String) : NativeFailure :=
  .object (some (Utf8.encode s!"no such unit: {name}"))

def noRecord (name : String) : NativeFailure :=
  .object (some (Utf8.encode s!"no such record: {name}"))

def openUnit (lib : NativeLibrary) (name : String) : Except NativeFailure (Pointer .unit) :=
  match lib.unit? name with
  | none => .error (noUnit name)
  | some u => match u.failure with
    | some failure => .error failure
    | none => .ok u

def openRecord (lib : NativeLibrary) (name : String) : Except NativeFailure (Pointer .record) :=
  match lib.record? name with
  | none => .error (noRecord name)
  | some r => match r.failure with
    | some failure => .error failure
    | none => .ok r

/-- Opens a store, whatever its path. -/
def openStore (lib : NativeLibrary) (_ : String) : Except NativeFailure Unit :=
  match lib.storeFailure with
  | some failure => .error failure
  | none => .ok ⟨⟩

def unitTime (lib : NativeLibrary) (name : String) : Except NativeFailure Timestamp :=
  match lib.unit? name with
  | none => .error (noUnit name)
  | some u => .ok u.modified

/-- The names of the units; sorted, equal names keep their order. -/
def unitNames (lib : NativeLibrary) (sorted : Bool) : List RawString :=
  let names := lib.contents.units.map (·.name)
  if sorted then names.mergeSort fun a b => Bytes.le a.octets b.octets else names

/-- The unit name for an output file, as the library writes it. -/
def unitNameFor (lib : NativeLibrary) (path : String) : NameCall :=
  .writing (match lib.contents.units.find? (·.outputFile.octets == Utf8.encode path) with
    | some u => u.name.octets
    | none => lib.derivedName)

/-- The library's functions of a kind under their names. -/
def offers (lib : NativeLibrary) : (kind : Signature) → List (String × kind.Call Pointer)
  | .effect =>
    [("indexstore_error_get_description", ⟨⟩), ("indexstore_error_dispose", ⟨⟩),
     ("indexstore_store_dispose", ⟨⟩), ("indexstore_unit_reader_dispose", ⟨⟩),
     ("indexstore_record_reader_dispose", ⟨⟩)]
  | .version => [("indexstore_format_version", lib.formatVersion)]
  | .store => [("indexstore_store_create", lib.openStore)]
  | .unitNames => [("indexstore_store_units_apply_f", lib.unitNames)]
  | .unitNameFor => [("indexstore_store_get_unit_name_from_output_path", lib.unitNameFor)]
  | .unitTime => [("indexstore_store_get_unit_modification_time", lib.unitTime)]
  | .reader .unit => [("indexstore_unit_reader_create", lib.openUnit)]
  | .reader .record => [("indexstore_record_reader_create", lib.openRecord)]
  | .text .unit =>
    [("indexstore_unit_reader_get_main_file", fun u => u.mainFile),
     ("indexstore_unit_reader_get_output_file", fun u => u.outputFile),
     ("indexstore_unit_reader_get_module_name", fun u => u.moduleName),
     ("indexstore_unit_reader_get_working_dir", fun u => u.workingDirectory),
     ("indexstore_unit_reader_get_target", fun u => u.target),
     ("indexstore_unit_reader_get_sysroot_path", fun u => u.sysroot),
     ("indexstore_unit_reader_get_provider_identifier", fun u => u.providerIdentifier),
     ("indexstore_unit_reader_get_provider_version", fun u => u.providerVersion)]
  | .flag .unit =>
    [("indexstore_unit_reader_is_system_unit", fun u => u.isSystem),
     ("indexstore_unit_reader_is_module_unit", fun u => u.isModule),
     ("indexstore_unit_reader_is_debug_compilation", fun u => u.isDebug),
     ("indexstore_unit_reader_has_main_file", fun u => u.hasMainFile)]
  | .time .unit => [("indexstore_unit_reader_get_modification_time", fun u => u.modified)]
  | .listing .unit .dependency =>
    [("indexstore_unit_reader_dependencies_apply_f", fun u => u.dependencies)]
  | .listing .unit .directive => [("indexstore_unit_reader_includes_apply_f", fun u => u.includes)]
  | .number .dependency => [("indexstore_unit_dependency_get_kind", fun d => d.kind)]
  | .flag .dependency => [("indexstore_unit_dependency_is_system", fun d => d.isSystem)]
  | .text .dependency =>
    [("indexstore_unit_dependency_get_name", fun d => d.name),
     ("indexstore_unit_dependency_get_filepath", fun d => d.file),
     ("indexstore_unit_dependency_get_modulename", fun d => d.moduleName)]
  | .text .directive =>
    [("indexstore_unit_include_get_source_path", fun i => i.source),
     ("indexstore_unit_include_get_target_path", fun i => i.target)]
  | .number .directive =>
    [("indexstore_unit_include_get_source_line", fun i => UInt32.ofInt i.line)]
  | .uncachedListing .record .symbol =>
    [("indexstore_record_reader_symbols_apply_f", fun r _ => r.symbols)]
  | .listing .record .occurrence =>
    [("indexstore_record_reader_occurrences_apply_f", fun r => r.occurrences.map fun o => (r, o))]
  | .lineListing .record .occurrence =>
    [("indexstore_record_reader_occurrences_in_line_range_f", fun r start count =>
      (r.occurrences.filter fun o => lineWithin start count o.line).map fun o => (r, o))]
  | .number .symbol =>
    [("indexstore_symbol_get_language", fun s => s.language),
     ("indexstore_symbol_get_kind", fun s => s.kind),
     ("indexstore_symbol_get_subkind", fun s => s.subkind)]
  | .word .symbol =>
    [("indexstore_symbol_get_properties", fun s => s.properties),
     ("indexstore_symbol_get_roles", fun s => s.roles),
     ("indexstore_symbol_get_related_roles", fun s => s.relatedRoles)]
  | .text .symbol =>
    [("indexstore_symbol_get_name", fun s => s.name),
     ("indexstore_symbol_get_usr", fun s => s.usr),
     ("indexstore_symbol_get_codegen_name", fun s => s.codegenName)]
  | .link .occurrence .symbol =>
    [("indexstore_occurrence_get_symbol", fun (r, o) => symbolAt r o.symbol)]
  | .word .occurrence => [("indexstore_occurrence_get_roles", fun (_, o) => o.roles)]
  | .place .occurrence => [("indexstore_occurrence_get_line_col", fun (_, o) => (o.line, o.column))]
  | .listing .occurrence .relation =>
    [("indexstore_occurrence_relations_apply_f", fun (r, o) =>
      o.relations.map fun relation => (r, relation))]
  | .word .relation => [("indexstore_symbol_relation_get_roles", fun (_, roles, _) => roles)]
  | .link .relation .symbol =>
    [("indexstore_symbol_relation_get_symbol", fun (r, _, position) => symbolAt r position)]
  | _ => []

def exports (lib : NativeLibrary) : NativeExports Pointer where
  heedsStop := !lib.stubborn
  find kind name := if lib.has name then (lib.offers kind).lookup name else none

end NativeLibrary

end CodeIndex
