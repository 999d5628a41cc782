import CodeIndex.Store.Cursor
import CodeIndex.Report.Table
/-!
# Reports

A report gathers entries from a store and shows them as a table or as JSON. A report on all units
goes through them in name order, one at a time, and passes over those that do not open.
-/
namespace CodeIndex.Report

inductive ReportFault where
  | query (fault : Fault)
  | writing (fault : Instant.WritingFault)
  deriving DecidableEq, Repr

def ReportFault.message : ReportFault → String
  | .query fault => fault.message
  | .writing fault => fault.message

/-- Does something with a unit opened by name, and closes it. -/
def withUnit (e : Engine) (name : String) {α : Type} (action : OpenUnit → Access (Except Fault α)) :
    Access (Except Fault α) := do
  match ← e.openUnit name with
  | .error fault => pure (.error fault)
  | .ok unit =>
    let result ← action unit
    unit.close e
    pure result

/-- Gathers the entries of the units of some names; the first entry that fails ends it. -/
def overNames (e : Engine) {α : Type} (entry : OpenUnit → Access (Except Fault (Option α))) :
    List (Except Fault String) → Access (Except Fault (List α))
  | [] => pure (.ok [])
  | name :: rest => do
    match ← e.openNamedUnit name with
    | .error _ => overNames e entry rest
    | .ok unit =>
      let result ← entry unit
      unit.close e
      match result with
      | .error fault => pure (.error fault)
      | .ok found => return (← overNames e entry rest).map (found.toList ++ ·)

/-- Gathers the entry of one unit, or those of all units, in name order if so asked. -/
def gather (e : Engine) (unit : Option String) (sorted : Bool) {α : Type}
    (entry : OpenUnit → Access (Except Fault (Option α))) : Access (Except Fault (List α)) := do
  match unit with
  | some name => return (← withUnit e name entry).map Option.toList
  | none => overNames e entry (← (UnitCursor.mk sorted none).gather e)

def present (json : Bool) (value : Json) (headings : List String) (rows : List (List String))
    (none : String) : String :=
  if json then value.pretty else table headings rows none

end CodeIndex.Report
