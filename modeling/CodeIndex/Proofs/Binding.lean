import CodeIndex.Engine.Native
/-!
# Binding

Resolving asks a library for one function after the other, and only for functions that it offers
under the name and kind asked for. So it ends at the first that the library lacks of those it must
have, or with the table of the library's own functions.
-/
namespace CodeIndex

namespace Export

def providerIdentifier : String := "indexstore_unit_reader_get_provider_identifier"

def providerVersion : String := "indexstore_unit_reader_get_provider_version"

/-- The functions a library must have, in the order they are asked for. -/
def required : List String :=
  ["indexstore_format_version", "indexstore_error_get_description", "indexstore_error_dispose",
   "indexstore_store_create", "indexstore_store_dispose", "indexstore_store_units_apply_f",
   "indexstore_store_get_unit_name_from_output_path",
   "indexstore_store_get_unit_modification_time", "indexstore_unit_reader_create",
   "indexstore_unit_reader_dispose", "indexstore_unit_reader_get_main_file",
   "indexstore_unit_reader_get_output_file", "indexstore_unit_reader_get_module_name",
   "indexstore_unit_reader_get_working_dir", "indexstore_unit_reader_get_target",
   "indexstore_unit_reader_get_sysroot_path", "indexstore_unit_reader_is_system_unit",
   "indexstore_unit_reader_is_module_unit", "indexstore_unit_reader_is_debug_compilation",
   "indexstore_unit_reader_has_main_file", "indexstore_unit_reader_get_modification_time",
   "indexstore_unit_reader_dependencies_apply_f", "indexstore_unit_reader_includes_apply_f",
   "indexstore_unit_dependency_get_kind", "indexstore_unit_dependency_is_system",
   "indexstore_unit_dependency_get_name", "indexstore_unit_dependency_get_filepath",
   "indexstore_unit_dependency_get_modulename", "indexstore_unit_include_get_source_path",
   "indexstore_unit_include_get_target_path", "indexstore_unit_include_get_source_line",
   "indexstore_record_reader_create", "indexstore_record_reader_dispose",
   "indexstore_record_reader_symbols_apply_f", "indexstore_record_reader_occurrences_apply_f",
   "indexstore_record_reader_occurrences_in_line_range_f", "indexstore_symbol_get_language",
   "indexstore_symbol_get_kind", "indexstore_symbol_get_subkind",
   "indexstore_symbol_get_properties", "indexstore_symbol_get_roles",
   "indexstore_symbol_get_related_roles", "indexstore_symbol_get_name",
   "indexstore_symbol_get_usr", "indexstore_symbol_get_codegen_name",
   "indexstore_occurrence_get_symbol", "indexstore_occurrence_get_roles",
   "indexstore_occurrence_get_line_col", "indexstore_occurrence_relations_apply_f",
   "indexstore_symbol_relation_get_roles", "indexstore_symbol_relation_get_symbol"]

end Export

namespace NativeLibrary

variable (lib : NativeLibrary)

/-- The first function that is asked for in vain. -/
def firstMissing : Option String := Export.required.find? fun name => !lib.has name

/-- The library's own functions. -/
def functions : NativeFunctions Pointer where
  heedsStop := !lib.stubborn
  formatVersion := lib.formatVersion
  store := lib.openStore
  unitNames := lib.unitNames
  unitNameFor := lib.unitNameFor
  unitTime := lib.unitTime
  unit := lib.openUnit
  unitMainFile u := u.mainFile
  unitOutputFile u := u.outputFile
  unitModuleName u := u.moduleName
  unitWorkingDirectory u := u.workingDirectory
  unitTarget u := u.target
  unitSysroot u := u.sysroot
  unitProviderIdentifier :=
    if lib.has Export.providerIdentifier then some fun u => u.providerIdentifier else none
  unitProviderVersion :=
    if lib.has Export.providerVersion then some fun u => u.providerVersion else none
  unitIsSystem u := u.isSystem
  unitIsModule u := u.isModule
  unitIsDebug u := u.isDebug
  unitHasMainFile u := u.hasMainFile
  unitModified u := u.modified
  unitDependencies u := u.dependencies
  unitDirectives u := u.includes
  dependencyKind d := d.kind
  dependencyIsSystem d := d.isSystem
  dependencyName d := d.name
  dependencyFile d := d.file
  dependencyModuleName d := d.moduleName
  directiveSource i := i.source
  directiveTarget i := i.target
  directiveLine i := UInt32.ofInt i.line
  record := lib.openRecord
  recordSymbols r _ := r.symbols
  recordOccurrences r := r.occurrences.map fun o => (r, o)
  recordLines r start count :=
    (r.occurrences.filter fun o => lineWithin start count o.line).map fun o => (r, o)
  symbolLanguage s := s.language
  symbolKind s := s.kind
  symbolSubkind s := s.subkind
  symbolProperties s := s.properties
  symbolRoles s := s.roles
  symbolRelatedRoles s := s.relatedRoles
  symbolName s := s.name
  symbolUsr s := s.usr
  symbolCodegenName s := s.codegenName
  occurrenceSymbol := fun (r, o) => symbolAt r o.symbol
  occurrenceRoles := fun (_, o) => o.roles
  occurrencePlace := fun (_, o) => (o.line, o.column)
  occurrenceRelations := fun (r, o) => o.relations.map fun relation => (r, relation)
  relationRoles := fun (_, roles, _) => roles
  relationSymbol := fun (r, _, position) => symbolAt r position

def engine : Engine := lib.functions.engine

/-- The names that the engine gives, in the library's order or sorted. -/
theorem engine_unitNames (sorted : Bool) : lib.engine.unitNames sorted =
    let names := lib.contents.units.map (·.name.octets)
    if sorted then names.mergeSort Bytes.le else names := by
  have names : lib.contents.units.map (·.name.octets) =
      (lib.contents.units.map (·.name)).map RawString.octets := by
    rw [List.map_map]
    rfl
  change (lib.unitNames sorted).map RawString.octets = _
  rw [unitNames, names]
  cases sorted with
  | false => rfl
  | true => exact List.map_mergeSort fun _ _ _ _ => rfl

/-- What asking for functions in turn comes to. -/
def asked {α : Type} (names : List String) (answer : α) : Except String α :=
  match names.find? fun name => !lib.has name with
  | some name => .error name
  | none => .ok answer

variable {lib}

/-- One function is asked for, and then the others. -/
theorem required_bind {α : Type} {kind : Signature} {name : String} {call : kind.Call Pointer}
    {names : List String} {answer : α} (offered : (lib.offers kind).lookup name = some call)
    {others : kind.Call Pointer → Except String α} (rest : others call = lib.asked names answer) :
    (lib.exports.required kind name >>= others) = lib.asked (name :: names) answer := by
  have found : lib.exports.find kind name = if lib.has name then some call else none := by
    rw [← offered]
    rfl
  rw [NativeExports.required, found, asked, List.find?_cons]
  cases lib.has name with
  | true => exact rest
  | false => rfl

variable (lib)

/-- Resolving ends at the first function that is asked for in vain, and otherwise with the library's
own functions. -/
theorem resolve_exports :
    NativeFunctions.resolve lib.exports = lib.asked Export.required lib.functions := by
  have provider (name : String) (getter : Pointer .unit → RawString)
      (offered : (lib.offers (.text .unit)).lookup name = some getter) :
      lib.exports.find (.text .unit) name = if lib.has name then some getter else none := by
    rw [← offered]
    rfl
  rw [NativeFunctions.resolve]
  -- One step for each required function, in the order of the list.
  iterate 51 refine required_bind rfl ?_
  rw [provider _ (fun u => u.providerIdentifier) rfl, provider _ (fun u => u.providerVersion) rfl]
  rfl

theorem resolve_eq_error {symbol : String} (lacks : lib.firstMissing = some symbol) :
    NativeFunctions.resolve lib.exports = .error symbol := by
  rw [firstMissing] at lacks
  rw [resolve_exports, asked, lacks]

theorem resolve_eq_ok (complete : lib.firstMissing = none) :
    NativeFunctions.resolve lib.exports = .ok lib.functions := by
  rw [firstMissing] at complete
  rw [resolve_exports, asked, complete]

end NativeLibrary

end CodeIndex
