import CodeIndex.Store.Snapshot
import CodeIndex.Report.Basic
/-!
# Reports on records

The records a unit refers to, and the occurrences in a record.
-/
namespace CodeIndex.Report

/-- A record of a unit: counted, or with the reason why it does not open. -/
structure RecordEntryInfo where
  name : String := ""
  file : String := ""
  symbols : Nat := 0
  occurrences : Nat := 0
  error : String := ""
  deriving DecidableEq, Repr

/-- Counts what is in a record, and closes it. -/
def countRecord (e : Engine) : Except Fault OpenRecord → Access RecordEntryInfo
  | .error fault => pure { error := fault.message }
  | .ok record => do
    let symbols ← (record.symbols e).count
    let occurrences ← (record.occurrences e none).count
    record.close e
    pure { name := record.name, file := (record.file.map Path.text).getD "", symbols, occurrences }

def countRecords (e : Engine) : List RecordName → Access (List RecordEntryInfo)
  | [] => pure []
  | (name, file) :: rest => do
    let entry ← countRecord e (← e.openRecord name (some file))
    return entry :: (← countRecords e rest)

def recordEntries (e : Engine) (unit : String) : Access (Except Fault (List RecordEntryInfo)) :=
  withUnit e unit fun u => do
    let names ← (RecordCursor.mk u none).gather e
    return .ok (← countRecords e names)

def RecordEntryInfo.toJson (r : RecordEntryInfo) : Json :=
  .object [("name", .string r.name), ("file", .string r.file), ("symbols", .number r.symbols),
    ("occurrences", .number r.occurrences), ("error", .string r.error)]

def RecordEntryInfo.row (r : RecordEntryInfo) : List String :=
  [r.name, r.file, toString r.symbols, toString r.occurrences, r.error]

def records (e : Engine) (unit : String) (json : Bool) : Access (Except ReportFault String) := do
  match ← recordEntries e unit with
  | .error fault => pure (.error (.query fault))
  | .ok entries =>
    pure (.ok (present json (.array (entries.map (·.toJson)))
      ["Record", "File", "Symbols", "Occurrences", "Error"] (entries.map (·.row))
      "Unit references no records."))

/-- Takes an occurrence if its symbol has the USR asked for. -/
def takeOccurrence (e : Engine) (usr : Option String) (o : Occurrence) :
    Access (Option OccurrenceInfo) := do
  if usr.all fun usr => o.symbol.usr == Utf8.encode usr then return some (← o.snapshot e)
  else pure none

/-- The occurrences in a record, of one symbol and on some lines if so asked. -/
def occurrenceEntries (e : Engine) (record : String) (usr : Option String)
    (lines : Option (UInt32 × UInt32)) : Access (Except Fault (List OccurrenceInfo)) := do
  match ← e.openRecord record none with
  | .error fault => pure (.error fault)
  | .ok record =>
    let taken ← (record.occurrences e lines).mapCollect (takeOccurrence e usr)
    record.close e
    pure (.ok (taken.filterMap id))

/-- Roles in lower case, separated by commas. -/
def roleList (roles : SymbolRoles) : String :=
  ",".intercalate (roles.names.map fun name => String.ofList (name.toList.map Char.toLower))

def occurrenceRow (o : OccurrenceInfo) : List String :=
  [toString o.line, toString o.column, o.symbol.name, o.symbol.kind.describe, roleList o.roles,
    o.symbol.usr]

def occurrences (e : Engine) (record : String) (usr : Option String)
    (lines : Option (UInt32 × UInt32)) (json : Bool) : Access (Except ReportFault String) := do
  match ← occurrenceEntries e record usr lines with
  | .error fault => pure (.error (.query fault))
  | .ok entries =>
    pure (.ok (present json (.array (entries.map (·.toJson)))
      ["Line", "Col", "Symbol", "Kind", "Roles", "USR"] (entries.map occurrenceRow)
      "No occurrences found."))

end CodeIndex.Report
