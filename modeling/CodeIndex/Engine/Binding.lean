import CodeIndex.Engine.Accessors
/-!
# Binding to native functions

An engine bound to the functions of a native library at run time. Each function is looked up by name
once, in a fixed order, and kept in a table; only the two that tell who wrote a unit may be missing.
Readers are asked through the functions of the table. A call that makes something returns null when
it fails, and may then leave an error object that must be read and given back. A unit name is
written into a buffer of the caller.
-/
namespace CodeIndex

inductive NativeFailure where
  /-- Without an error object. -/
  | noObject
  /-- With an error object, whose description may be a null pointer. -/
  | object (description : Option Bytes)
  deriving DecidableEq, Repr

/-- A call that writes a name into a buffer, told how many octets of it to use, and returns the full
length of the name. -/
abbrev NameCall := (buffer : Bytes) → (size : Nat) → Bytes × Nat

namespace NameCall

/-- The call that writes `name`, cut to leave room for a zero behind it; what the buffer held
further back stays. -/
def writing (name : Bytes) : NameCall := fun buffer size =>
  let written := (name.take (size - 1) ++ [0]).take size
  (written ++ buffer.drop written.length, name.length)

/-- A buffer of `size` octets that begins like `buffer`, filled up with zeros. -/
def resize (buffer : Bytes) (size : Nat) : Bytes :=
  buffer.take size ++ List.replicate (size - buffer.length) 0

/-- A turn of the loop: it ends with the name if that has room, and otherwise goes on with a buffer
that has grown to what the call asked for, with one octet more for the zero. -/
def turn (call : NameCall) (buffer : Bytes) : Bytes ⊕ Bytes :=
  let (filled, needed) := call buffer buffer.length
  if needed < buffer.length then .inr (filled.take needed)
  else .inl (resize filled (needed + 1))

/-- Calls until the name fits. Nothing bounds the turns, and nothing is known of the outcome where
they go on for ever. -/
def fetch (call : NameCall) (buffer : Bytes) : Bytes := repeatM (m := Id) (turn call) buffer

def firstSize : Nat := 256

def firstBuffer : Bytes := List.replicate firstSize 0

def whole (call : NameCall) : Bytes := fetch call firstBuffer

end NameCall

/-- The kinds of functions a native library exports. -/
inductive Signature where
  /-- A call for its effect on objects: it gives one back, or reads what an error has to say. -/
  | effect
  | version
  | store
  | unitNames
  | unitNameFor
  | unitTime
  /-- Makes a reader of something that is named. -/
  | reader (made : Pointee)
  | text (of : Pointee)
  | flag (of : Pointee)
  | number (of : Pointee)
  | word (of : Pointee)
  | time (of : Pointee)
  | place (of : Pointee)
  /-- From one thing to another. -/
  | link (of other : Pointee)
  /-- Enumerates what belongs to a thing. -/
  | listing (of other : Pointee)
  | uncachedListing (of other : Pointee)
  | lineListing (of other : Pointee)
  deriving DecidableEq, Repr

/-- A function of a kind. What it points to is its library's own. -/
def Signature.Call (P : Pointee → Type) : Signature → Type
  | .effect => Unit
  | .version => UInt32
  | .store => (path : String) → Except NativeFailure Unit
  | .unitNames => (sorted : Bool) → List RawString
  | .unitNameFor => (outputPath : String) → NameCall
  | .unitTime => (name : String) → Except NativeFailure Timestamp
  | .reader made => (name : String) → Except NativeFailure (P made)
  | .text of => P of → RawString
  | .flag of => P of → Bool
  | .number of => P of → UInt32
  | .word of => P of → UInt64
  | .time of => P of → Timestamp
  | .place of => P of → UInt32 × UInt32
  | .link of other => P of → P other
  | .listing of other => P of → List (P other)
  | .uncachedListing of other => P of → (uncached : Bool) → List (P other)
  | .lineListing of other => P of → (start count : UInt32) → List (P other)

/-- A loaded library: what stands under a name, taken as a function of a kind. -/
structure NativeExports (P : Pointee → Type) where
  /-- Whether enumerations end when told to stop. -/
  heedsStop : Bool
  find : (kind : Signature) → (name : String) → Option (kind.Call P)

structure NativeFunctions (P : Pointee → Type) where
  heedsStop : Bool
  formatVersion : UInt32
  /-- Whether a store opens. -/
  store : (path : String) → Except NativeFailure Unit
  /-- The names of the units, in the library's own order or sorted. -/
  unitNames : (sorted : Bool) → List RawString
  unitNameFor : (outputPath : String) → NameCall
  unitTime : (name : String) → Except NativeFailure Timestamp
  unit : (name : String) → Except NativeFailure (P .unit)
  unitMainFile : P .unit → RawString
  unitOutputFile : P .unit → RawString
  unitModuleName : P .unit → RawString
  unitWorkingDirectory : P .unit → RawString
  unitTarget : P .unit → RawString
  unitSysroot : P .unit → RawString
  unitProviderIdentifier : Option (P .unit → RawString)
  unitProviderVersion : Option (P .unit → RawString)
  unitIsSystem : P .unit → Bool
  unitIsModule : P .unit → Bool
  unitIsDebug : P .unit → Bool
  unitHasMainFile : P .unit → Bool
  unitModified : P .unit → Timestamp
  unitDependencies : P .unit → List (P .dependency)
  unitDirectives : P .unit → List (P .directive)
  dependencyKind : P .dependency → UInt32
  dependencyIsSystem : P .dependency → Bool
  dependencyName : P .dependency → RawString
  dependencyFile : P .dependency → RawString
  dependencyModuleName : P .dependency → RawString
  directiveSource : P .directive → RawString
  directiveTarget : P .directive → RawString
  directiveLine : P .directive → UInt32
  record : (name : String) → Except NativeFailure (P .record)
  recordSymbols : P .record → (uncached : Bool) → List (P .symbol)
  recordOccurrences : P .record → List (P .occurrence)
  recordLines : P .record → (start count : UInt32) → List (P .occurrence)
  symbolLanguage : P .symbol → UInt32
  symbolKind : P .symbol → UInt32
  symbolSubkind : P .symbol → UInt32
  symbolProperties : P .symbol → UInt64
  symbolRoles : P .symbol → UInt64
  symbolRelatedRoles : P .symbol → UInt64
  symbolName : P .symbol → RawString
  symbolUsr : P .symbol → RawString
  symbolCodegenName : P .symbol → RawString
  occurrenceSymbol : P .occurrence → P .symbol
  occurrenceRoles : P .occurrence → UInt64
  occurrencePlace : P .occurrence → UInt32 × UInt32
  occurrenceRelations : P .occurrence → List (P .relation)
  relationRoles : P .relation → UInt64
  relationSymbol : P .relation → P .symbol

variable {P : Pointee → Type}

/-- A function that must be there; without it, its name is what is amiss. -/
def NativeExports.required (lib : NativeExports P) (kind : Signature) (name : String) :
    Except String (kind.Call P) :=
  match lib.find kind name with
  | some call => .ok call
  | none => .error name

/-- Looks up every function, one after the other; the first that is missing ends it. -/
def NativeFunctions.resolve (lib : NativeExports P) : Except String (NativeFunctions P) := do
  let formatVersion ← lib.required .version "indexstore_format_version"
  let _ ← lib.required .effect "indexstore_error_get_description"
  let _ ← lib.required .effect "indexstore_error_dispose"
  let store ← lib.required .store "indexstore_store_create"
  let _ ← lib.required .effect "indexstore_store_dispose"
  let unitNames ← lib.required .unitNames "indexstore_store_units_apply_f"
  let unitNameFor ←
    lib.required .unitNameFor "indexstore_store_get_unit_name_from_output_path"
  let unitTime ← lib.required .unitTime "indexstore_store_get_unit_modification_time"
  let unit ← lib.required (.reader .unit) "indexstore_unit_reader_create"
  let _ ← lib.required .effect "indexstore_unit_reader_dispose"
  let unitMainFile ← lib.required (.text .unit) "indexstore_unit_reader_get_main_file"
  let unitOutputFile ← lib.required (.text .unit) "indexstore_unit_reader_get_output_file"
  let unitModuleName ← lib.required (.text .unit) "indexstore_unit_reader_get_module_name"
  let unitWorkingDirectory ← lib.required (.text .unit) "indexstore_unit_reader_get_working_dir"
  let unitTarget ← lib.required (.text .unit) "indexstore_unit_reader_get_target"
  let unitSysroot ← lib.required (.text .unit) "indexstore_unit_reader_get_sysroot_path"
  let unitProviderIdentifier :=
    lib.find (.text .unit) "indexstore_unit_reader_get_provider_identifier"
  let unitProviderVersion := lib.find (.text .unit) "indexstore_unit_reader_get_provider_version"
  let unitIsSystem ← lib.required (.flag .unit) "indexstore_unit_reader_is_system_unit"
  let unitIsModule ← lib.required (.flag .unit) "indexstore_unit_reader_is_module_unit"
  let unitIsDebug ← lib.required (.flag .unit) "indexstore_unit_reader_is_debug_compilation"
  let unitHasMainFile ← lib.required (.flag .unit) "indexstore_unit_reader_has_main_file"
  let unitModified ← lib.required (.time .unit) "indexstore_unit_reader_get_modification_time"
  let unitDependencies ←
    lib.required (.listing .unit .dependency) "indexstore_unit_reader_dependencies_apply_f"
  let unitDirectives ←
    lib.required (.listing .unit .directive) "indexstore_unit_reader_includes_apply_f"
  let dependencyKind ← lib.required (.number .dependency) "indexstore_unit_dependency_get_kind"
  let dependencyIsSystem ← lib.required (.flag .dependency) "indexstore_unit_dependency_is_system"
  let dependencyName ← lib.required (.text .dependency) "indexstore_unit_dependency_get_name"
  let dependencyFile ← lib.required (.text .dependency) "indexstore_unit_dependency_get_filepath"
  let dependencyModuleName ←
    lib.required (.text .dependency) "indexstore_unit_dependency_get_modulename"
  let directiveSource ← lib.required (.text .directive) "indexstore_unit_include_get_source_path"
  let directiveTarget ← lib.required (.text .directive) "indexstore_unit_include_get_target_path"
  let directiveLine ← lib.required (.number .directive) "indexstore_unit_include_get_source_line"
  let record ← lib.required (.reader .record) "indexstore_record_reader_create"
  let _ ← lib.required .effect "indexstore_record_reader_dispose"
  let recordSymbols ←
    lib.required (.uncachedListing .record .symbol) "indexstore_record_reader_symbols_apply_f"
  let recordOccurrences ←
    lib.required (.listing .record .occurrence) "indexstore_record_reader_occurrences_apply_f"
  let recordLines ← lib.required (.lineListing .record .occurrence)
    "indexstore_record_reader_occurrences_in_line_range_f"
  let symbolLanguage ← lib.required (.number .symbol) "indexstore_symbol_get_language"
  let symbolKind ← lib.required (.number .symbol) "indexstore_symbol_get_kind"
  let symbolSubkind ← lib.required (.number .symbol) "indexstore_symbol_get_subkind"
  let symbolProperties ← lib.required (.word .symbol) "indexstore_symbol_get_properties"
  let symbolRoles ← lib.required (.word .symbol) "indexstore_symbol_get_roles"
  let symbolRelatedRoles ← lib.required (.word .symbol) "indexstore_symbol_get_related_roles"
  let symbolName ← lib.required (.text .symbol) "indexstore_symbol_get_name"
  let symbolUsr ← lib.required (.text .symbol) "indexstore_symbol_get_usr"
  let symbolCodegenName ← lib.required (.text .symbol) "indexstore_symbol_get_codegen_name"
  let occurrenceSymbol ←
    lib.required (.link .occurrence .symbol) "indexstore_occurrence_get_symbol"
  let occurrenceRoles ← lib.required (.word .occurrence) "indexstore_occurrence_get_roles"
  let occurrencePlace ← lib.required (.place .occurrence) "indexstore_occurrence_get_line_col"
  let occurrenceRelations ←
    lib.required (.listing .occurrence .relation) "indexstore_occurrence_relations_apply_f"
  let relationRoles ← lib.required (.word .relation) "indexstore_symbol_relation_get_roles"
  let relationSymbol ←
    lib.required (.link .relation .symbol) "indexstore_symbol_relation_get_symbol"
  return {
    heedsStop := lib.heedsStop
    formatVersion, store, unitNames, unitNameFor, unitTime, unit, unitMainFile, unitOutputFile
    unitModuleName, unitWorkingDirectory, unitTarget, unitSysroot, unitProviderIdentifier
    unitProviderVersion, unitIsSystem, unitIsModule, unitIsDebug, unitHasMainFile, unitModified
    unitDependencies, unitDirectives, dependencyKind, dependencyIsSystem, dependencyName
    dependencyFile, dependencyModuleName, directiveSource, directiveTarget, directiveLine, record
    recordSymbols, recordOccurrences, recordLines, symbolLanguage, symbolKind, symbolSubkind
    symbolProperties, symbolRoles, symbolRelatedRoles, symbolName, symbolUsr, symbolCodegenName
    occurrenceSymbol, occurrenceRoles, occurrencePlace, occurrenceRelations, relationRoles
    relationSymbol }

namespace NativeFunctions

/-- The function for a string of a unit, if the library has one. -/
def unitGetter? (f : NativeFunctions P) : UnitField → Option (P .unit → RawString)
  | .mainFile => some f.unitMainFile
  | .outputFile => some f.unitOutputFile
  | .moduleName => some f.unitModuleName
  | .workingDirectory => some f.unitWorkingDirectory
  | .target => some f.unitTarget
  | .sysroot => some f.unitSysroot
  | .providerIdentifier => f.unitProviderIdentifier
  | .providerVersion => f.unitProviderVersion

/-- Asks a reader; a string that the library has no function for is a null pointer. -/
def accessors (f : NativeFunctions P) : Accessors P where
  unitString reader field := match f.unitGetter? field with
    | some getter => getter reader
    | none => .null 0
  unitFlag reader flag := match flag with
    | .isSystem => f.unitIsSystem reader
    | .isModule => f.unitIsModule reader
    | .isDebug => f.unitIsDebug reader
    | .hasMainFile => f.unitHasMainFile reader
  unitModified := f.unitModified
  unitDependencies := f.unitDependencies
  unitDirectives := f.unitDirectives
  dependencyKind := f.dependencyKind
  dependencyIsSystem := f.dependencyIsSystem
  dependencyString d field := match field with
    | .name => f.dependencyName d
    | .file => f.dependencyFile d
    | .moduleName => f.dependencyModuleName d
  directiveSource := f.directiveSource
  directiveTarget := f.directiveTarget
  directiveLine i := (f.directiveLine i).toNat
  recordSymbols := f.recordSymbols
  recordOccurrences := f.recordOccurrences
  recordLines := f.recordLines
  symbolLanguage := f.symbolLanguage
  symbolKind := f.symbolKind
  symbolSubkind := f.symbolSubkind
  symbolProperties := f.symbolProperties
  symbolRoles := f.symbolRoles
  symbolRelatedRoles := f.symbolRelatedRoles
  symbolString s field := match field with
    | .name => f.symbolName s
    | .usr => f.symbolUsr s
    | .codegenName => f.symbolCodegenName s
  occurrenceSymbol := f.occurrenceSymbol
  occurrenceRoles := f.occurrenceRoles
  occurrencePlace := f.occurrencePlace
  occurrenceRelations := f.occurrenceRelations
  relationRoles := f.relationRoles
  relationSymbol := f.relationSymbol

def openUnit (f : NativeFunctions P) (name : String) : Except NativeFailure UnitReader :=
  (f.unit name).map f.accessors.unitReader

def openRecord (f : NativeFunctions P) (name : String) : Except NativeFailure RecordReader :=
  (f.record name).map f.accessors.recordReader

end NativeFunctions

namespace Native

def make (kind : ResourceKind) : Access Handle := do
  let handle := (← get).objects.next
  Access.keep fun o => o.make kind
  pure handle

def dispose (kind : ResourceKind) (handle : Handle) : Access Unit :=
  Access.keep fun o => o.dispose ⟨kind, handle⟩

/-- What a call that fails leaves behind: nothing, or an error object. -/
def leaveError : NativeFailure → Access (Option Handle)
  | .noObject => pure none
  | .object description => do
    let error := (← get).objects.next
    Access.keep fun o => o.makeError description
    pure (some error)

/-- A call that makes something: the object made, or null and the error left behind. -/
def create {α : Type} (kind : ResourceKind) :
    Except NativeFailure α → Access (Option (Handle × α) × Option Handle)
  | .ok seen => do
    let handle ← make kind
    pure (some (handle, seen), none)
  | .error failure => do
    let error ← leaveError failure
    pure (none, error)

/-- A call that reports a time: whether it failed, the time, and the error left behind. -/
def readTime : Except NativeFailure Timestamp → Access (Bool × Timestamp × Option Handle)
  | .ok time => pure (false, time, none)
  | .error failure => do
    let error ← leaveError failure
    pure (true, {}, error)

def unknownError : String := "unknown error"

/-- The message of a failed call. An error object left behind is read and given back. -/
def takeError : Option Handle → Access String
  | none => pure unknownError
  | some error => do
    let message := match (← get).objects.description error with
      | none => unknownError
      | some octets => Utf8.lossy octets.beforeNul
    dispose .error error
    pure message

def created {α : Type} (kind : ResourceKind) (answer : Except NativeFailure α) :
    Access (Except String (Handle × α)) := do
  let (object, error) ← create kind answer
  match object with
  | some object => pure (.ok object)
  | none => return .error (← takeError error)

def timed (answer : Except NativeFailure Timestamp) : Access (Except String Timestamp) := do
  let (failed, time, error) ← readTime answer
  if failed then return .error (← takeError error) else pure (.ok time)

end Native

/-- The engine bound to native functions. Its enumerations are shielded, and it does not tell
whether concurrent reads are safe. -/
def NativeFunctions.engine (f : NativeFunctions P) : Engine where
  formatVersion := f.formatVersion
  concurrentReads := false
  conduct := ⟨f.heedsStop, true⟩
  createStore path := return (← Native.created .store (f.store path)).map Prod.fst
  disposeStore := Native.dispose .store
  unitNames sorted := (f.unitNames sorted).map RawString.octets
  unitNameFor path := (f.unitNameFor path).whole
  unitTime name := Native.timed (f.unitTime name)
  createUnit name := Native.created .unit (f.openUnit name)
  disposeUnit := Native.dispose .unit
  createRecord name := Native.created .record (f.openRecord name)
  disposeRecord := Native.dispose .record

end CodeIndex
