import CodeIndex.Command.Line
import CodeIndex.Report.OfUnits
import CodeIndex.Report.OfRecords
/-!
# Running commands

A command is a report on an open store.
-/
namespace CodeIndex

/-- The range of lines, if both of its bounds were given. -/
def Command.lines (start count : Option UInt32) : Option (UInt32 × UInt32) :=
  match start, count with
  | some start, some count => some (start, count)
  | _, _ => none

def Command.run (e : Engine) (files : FileSystem NativeLibrary) (clock : Instant) (json : Bool) :
    Command → Access (Except Report.ReportFault String)
  | .units sorted => Report.units e clock sorted json
  | .includes unit mainFile => Report.includes e unit mainFile json
  | .records unit => Report.records e unit json
  | .occurrences record usr start count =>
    Report.occurrences e record usr (Command.lines start count) json
  | .stale unit onlyStale => Report.stale e files unit onlyStale json

end CodeIndex
