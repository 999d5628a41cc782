import CodeIndex.Store.Inputs
import CodeIndex.Store.Snapshot
import CodeIndex.Report.Basic
/-!
# Reports on units

The units of a store, their include directives, and the units whose inputs changed.
-/
namespace CodeIndex.Report

def unitEntries (e : Engine) (sorted : Bool) : Access (Except Fault (List UnitInfo)) :=
  gather e none sorted fun unit => pure (.ok (some unit.snapshot))

def unitRow (clock : Instant) (u : UnitInfo) : List String :=
  [u.name, u.mainFile.getD "-", u.moduleName, u.target, if u.isSystem then "yes" else "no",
    u.modified.age clock]

def units (e : Engine) (clock : Instant) (sorted json : Bool) :
    Access (Except ReportFault String) := do
  match ← unitEntries e sorted with
  | .error fault => pure (.error (.query fault))
  | .ok entries =>
    if json then
      pure (((entries.mapM UnitInfo.toJson).map fun items => (Json.array items).pretty).mapError
        .writing)
    else
      pure (.ok (table ["Unit", "Main File", "Module", "Target", "System", "Written"]
        (entries.map (unitRow clock)) "No units found."))

structure UnitIncludes where
  unit : String
  includes : List IncludeInfo
  deriving DecidableEq, Repr

def endsWith (octets : Bytes) (suffix : String) : Bool := (Utf8.encode suffix).isSuffixOf octets

/-- The directives of a unit whose main file ends as asked. -/
def includesEntry (e : Engine) (mainFile : Option String) (u : OpenUnit) :
    Access (Except Fault (Option UnitIncludes)) := do
  if mainFile.all (endsWith u.reader.mainFile) then
    let includes ← (u.includes e).mapCollect fun i => pure i.snapshot
    pure (.ok (some ⟨u.name, includes⟩))
  else pure (.ok none)

def includesEntries (e : Engine) (unit mainFile : Option String) :
    Access (Except Fault (List UnitIncludes)) :=
  gather e unit true (includesEntry e mainFile)

def UnitIncludes.toJson (u : UnitIncludes) : Json :=
  .object [("unit", .string u.unit), ("includes", .array (u.includes.map (·.toJson)))]

def UnitIncludes.rows (u : UnitIncludes) : List (List String) :=
  u.includes.map fun i => [u.unit, i.source, toString i.line, i.target]

def includes (e : Engine) (unit mainFile : Option String) (json : Bool) :
    Access (Except ReportFault String) := do
  match ← includesEntries e unit mainFile with
  | .error fault => pure (.error (.query fault))
  | .ok entries =>
    pure (.ok (present json (.array (entries.map (·.toJson))) ["Unit", "Source", "Line", "Target"]
      (entries.flatMap (·.rows)) "No include directives found."))

structure UnitStaleness where
  unit : String
  staleness : Staleness
  deriving DecidableEq, Repr

/-- Whether a unit is stale; one that is not may be left out. -/
def staleEntry (e : Engine) (files : FileSystem NativeLibrary) (onlyStale : Bool) (u : OpenUnit) :
    Access (Except Fault (Option UnitStaleness)) := do
  match ← u.staleness e files with
  | .error fault => pure (.error fault)
  | .ok staleness =>
    if onlyStale && staleness.isUpToDate then pure (.ok none)
    else pure (.ok (some ⟨u.name, staleness⟩))

def staleEntries (e : Engine) (files : FileSystem NativeLibrary) (unit : Option String)
    (onlyStale : Bool) : Access (Except Fault (List UnitStaleness)) :=
  gather e unit true (staleEntry e files onlyStale)

def UnitStaleness.toJson (u : UnitStaleness) : Json :=
  .object (("unit", .string u.unit) :: u.staleness.members)

def pathLines (paths : List Path) : String := "\n".intercalate (paths.map Path.text)

def UnitStaleness.row (u : UnitStaleness) : List String :=
  match u.staleness with
  | .upToDate => [u.unit, "up to date", ""]
  | .stale newer => [u.unit, "stale", pathLines newer]
  | .missing paths => [u.unit, "missing inputs", pathLines paths]

def stale (e : Engine) (files : FileSystem NativeLibrary) (unit : Option String)
    (onlyStale json : Bool) : Access (Except ReportFault String) := do
  match ← staleEntries e files unit onlyStale with
  | .error fault => pure (.error (.query fault))
  | .ok entries =>
    pure (.ok (present json (.array (entries.map (·.toJson))) ["Unit", "State", "Files"]
      (entries.map (·.row)) "All units are up to date."))

end CodeIndex.Report
