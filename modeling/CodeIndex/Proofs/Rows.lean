import CodeIndex.Proofs.Gathering
import CodeIndex.Proofs.JsonTexts
import CodeIndex.Proofs.TableLines
/-!
# Rows and entries

A command gathers entries and shows them in one of two ways. Both show the same: the rows of the
table can be read off the JSON entries, in their order, without another look at the store. A form
says how the entries of a command are written, and carries the proof that its rows can be read.
-/
namespace CodeIndex

namespace Json

def member (key : String) : Json → Json
  | .object members => (members.lookup key).getD .null
  | _ => .null

def elements : Json → List Json
  | .array elements => elements
  | _ => []

def int : Json → Int
  | .number value => value
  | _ => 0

/-- A text or a number as it stands in a cell. -/
def cell : Json → String
  | .string text => text
  | .number value => toString value
  | _ => ""

end Json

namespace Report

section Reading

def readInstant (j : Json) : Instant :=
  ⟨(j.member "secs_since_epoch").int * nanosPerSecond + (j.member "nanos_since_epoch").int⟩

/-- The row of a unit, read off its entry. -/
def readUnit (clock : Instant) (j : Json) : List String :=
  [(j.member "name").cell,
    match j.member "main_file" with
      | .null => "-"
      | file => file.cell,
    (j.member "module_name").cell, (j.member "target").cell,
    match j.member "is_system" with
      | .bool true => "yes"
      | _ => "no",
    (readInstant (j.member "modification_time")).age clock]

def readIncludes (j : Json) : List (List String) :=
  (j.member "includes").elements.map fun i =>
    [(j.member "unit").cell, (i.member "source_path").cell, (i.member "line").cell,
      (i.member "target_path").cell]

def readRecord (j : Json) : List String :=
  ["name", "file", "symbols", "occurrences", "error"].map fun key => (j.member key).cell

def readKind (j : Json) : String :=
  match j with
  | .object _ => "Other(" ++ (j.member "Other").cell ++ ")"
  | named => named.cell

def readOccurrence (j : Json) : List String :=
  let symbol := j.member "symbol"
  [(j.member "line").cell, (j.member "column").cell, (symbol.member "name").cell,
    readKind (symbol.member "kind"),
    roleList ⟨UInt64.ofNat (j.member "roles").int.toNat⟩, (symbol.member "usr").cell]

def stateWords (state : String) : String :=
  if state = "up_to_date" then "up to date"
  else if state = "missing" then "missing inputs"
  else state

def readStaleness (j : Json) : List String :=
  [(j.member "unit").cell, stateWords (j.member "state").cell,
    "\n".intercalate (((j.member "newer").elements ++ (j.member "paths").elements).map Json.cell)]

/-- An instant from the epoch on is read back from its written form. -/
theorem readInstant_toJson {t : Instant} {j : Json} (h : t.toJson = .ok j) : readInstant j = t := by
  unfold Instant.toJson at h
  split at h
  · nomatch h
  · cases h
    have whole := Int.ediv_mul_add_emod t.nanos nanosPerSecond
    exact congrArg Instant.mk whole

theorem readUnit_toJson (clock : Instant) {u : UnitInfo} {j : Json} (h : u.toJson = .ok j) :
    readUnit clock j = unitRow clock u := by
  obtain ⟨name, mainFile, outputFile, moduleName, target, isSystem, modified⟩ := u
  unfold UnitInfo.toJson at h
  cases written : modified.toJson with
  | error fault => rw [written] at h; nomatch h
  | ok time =>
    rw [written] at h
    cases h
    rw [unitRow, ← readInstant_toJson written]
    cases mainFile <;> cases isSystem <;> rfl

theorem readIncludes_toJson (u : UnitIncludes) : readIncludes u.toJson = u.rows := by
  have directives : readIncludes u.toJson = (u.includes.map (·.toJson)).map fun i =>
      [u.unit, (i.member "source_path").cell, (i.member "line").cell,
        (i.member "target_path").cell] := rfl
  rw [directives, List.map_map]
  rfl

theorem readRecord_toJson (r : RecordEntryInfo) : readRecord r.toJson = r.row := rfl

theorem readKind_toJson (kind : SymbolKind) : readKind kind.toJson = kind.describe := by
  cases kind <;> rfl

theorem readOccurrence_toJson (o : OccurrenceInfo) :
    readOccurrence o.toJson = occurrenceRow o := by
  have read : readOccurrence o.toJson = [toString o.line, toString o.column, o.symbol.name,
      readKind o.symbol.kind.toJson, roleList ⟨UInt64.ofNat (o.roles.bits.toNat : Int).toNat⟩,
      o.symbol.usr] := rfl
  rw [read, readKind_toJson, Int.toNat_natCast, UInt64.ofNat_toNat]
  rfl

/-- The texts of paths, read off their list. -/
theorem map_cell_pathsJson (paths : List Path) :
    (Staleness.pathsJson paths).elements.map Json.cell = paths.map Path.text := by
  rw [Staleness.pathsJson, Json.elements, List.map_map]
  rfl

theorem readStaleness_toJson (u : UnitStaleness) : readStaleness u.toJson = u.row := by
  obtain ⟨unit, staleness⟩ := u
  cases staleness with
  | upToDate => rfl
  | stale newer =>
    have read : readStaleness (UnitStaleness.mk unit (.stale newer)).toJson = [unit, "stale",
        "\n".intercalate (((Staleness.pathsJson newer).elements ++ []).map Json.cell)] := rfl
    rw [read, List.append_nil, map_cell_pathsJson]
    rfl
  | missing paths =>
    have read : readStaleness (UnitStaleness.mk unit (.missing paths)).toJson = [unit,
        "missing inputs",
        "\n".intercalate ((Staleness.pathsJson paths).elements.map Json.cell)] := rfl
    rw [read, map_cell_pathsJson]
    rfl

end Reading

section Forms

/-- How the entries of a command are shown: what is written of each, its rows, how the rows are read
off what was written, and the table around them. Every row has a cell below each heading. -/
structure Form (α : Type) where
  toJson : α → Except Instant.WritingFault Json
  rows : Instant → α → List (List String)
  read : Instant → Json → List (List String)
  headings : List String
  placeholder : String
  legible : ∀ clock a j, toJson a = .ok j → read clock j = rows clock a
  even : ∀ clock a, ∀ row ∈ rows clock a, row.length = headings.length
  oneLine : '\n' ∉ placeholder.toList

/-- Units: one row for each, with `-` for a main file that is not there. -/
def unitForm : Form UnitInfo where
  toJson := UnitInfo.toJson
  rows clock u := [unitRow clock u]
  read clock j := [readUnit clock j]
  headings := ["Unit", "Main File", "Module", "Target", "System", "Written"]
  placeholder := "No units found."
  legible clock _ _ written := congrArg (fun row => [row]) (readUnit_toJson clock written)
  even _ _ _ among := List.eq_of_mem_singleton among ▸ rfl
  oneLine := by decide

/-- Directives: one row for each, with the name of its unit. -/
def includesForm : Form UnitIncludes where
  toJson u := .ok u.toJson
  rows _ u := u.rows
  read _ j := readIncludes j
  headings := ["Unit", "Source", "Line", "Target"]
  placeholder := "No include directives found."
  legible := by
    rintro - u - ⟨⟩
    exact readIncludes_toJson u
  even := by
    rintro - u row among
    obtain ⟨i, -, rfl⟩ := List.mem_map.mp among
    rfl
  oneLine := by decide

def recordForm : Form RecordEntryInfo where
  toJson r := .ok r.toJson
  rows _ r := [r.row]
  read _ j := [readRecord j]
  headings := ["Record", "File", "Symbols", "Occurrences", "Error"]
  placeholder := "Unit references no records."
  legible := by
    rintro - r - ⟨⟩
    rw [readRecord_toJson]
  even _ _ _ among := List.eq_of_mem_singleton among ▸ rfl
  oneLine := by decide

def occurrenceForm : Form OccurrenceInfo where
  toJson o := .ok o.toJson
  rows _ o := [occurrenceRow o]
  read _ j := [readOccurrence j]
  headings := ["Line", "Col", "Symbol", "Kind", "Roles", "USR"]
  placeholder := "No occurrences found."
  legible := by
    rintro - o - ⟨⟩
    rw [readOccurrence_toJson]
  even _ _ _ among := List.eq_of_mem_singleton among ▸ rfl
  oneLine := by decide

/-- States of units: one row for each, with its files below one another. -/
def staleForm : Form UnitStaleness where
  toJson u := .ok u.toJson
  rows _ u := [u.row]
  read _ j := [readStaleness j]
  headings := ["Unit", "State", "Files"]
  placeholder := "All units are up to date."
  legible := by
    rintro - u - ⟨⟩
    rw [readStaleness_toJson]
  even := by
    rintro - ⟨unit, staleness⟩ row among
    obtain rfl := List.eq_of_mem_singleton among
    cases staleness <;> rfl
  oneLine := by decide

/-- A command that gathers entries and shows them in a form. When the entries cannot be gathered,
both modes say why. Otherwise the JSON is a text of the list of what is written of each, unless one
of them cannot be written. The table has line for line the rows of the entries, which are those read
off this list; without rows the placeholder stands in its place. -/
structure ModesAgree {α : Type} (form : Form α) (collect : Access (Except Fault (List α)))
    (run : Instant → Bool → Access (Except ReportFault String)) : Prop where
  ledger (clock : Instant) (json : Bool) (l : Ledger) : (run clock json l).2 = (collect l).2
  fails (clock : Instant) (json : Bool) (l : Ledger) (fault : Fault) :
    (collect l).1 = .error fault → (run clock json l).1 = .error (.query fault)
  json (clock : Instant) (l : Ledger) (entries : List α) : (collect l).1 = .ok entries →
    (run clock true l).1 =
      ((entries.mapM form.toJson).map fun items => (Json.array items).pretty).mapError .writing
  written (clock : Instant) (l : Ledger) (entries : List α) (items : List Json) :
    (collect l).1 = .ok entries → entries.mapM form.toJson = .ok items →
    ∃ text, (run clock true l).1 = .ok text ∧ Json.Writes (.array items) text.toList
  table (clock : Instant) (l : Ledger) (entries : List α) : (collect l).1 = .ok entries →
    ∃ text, (run clock false l).1 = .ok text ∧ (entries.flatMap (form.rows clock) ≠ [] →
      Tabulates form.headings (entries.flatMap (form.rows clock)) text)
  rows (clock : Instant) (l : Ledger) (entries : List α) (items : List Json) :
    (collect l).1 = .ok entries → entries.mapM form.toJson = .ok items →
    entries.flatMap (form.rows clock) = items.flatMap (form.read clock)
  placeholder (clock : Instant) (l : Ledger) (entries : List α) : (collect l).1 = .ok entries →
    ((run clock false l).1 = .ok form.placeholder ↔ entries.flatMap (form.rows clock) = [])

variable {α : Type} {form : Form α} {collect : Access (Except Fault (List α))}
  {run : Instant → Bool → Access (Except ReportFault String)}

/-- Rows that can be read off each entry can be read off their list. -/
theorem Form.flatMap_read (form : Form α) (clock : Instant) {entries : List α} {items : List Json}
    (written : entries.mapM form.toJson = .ok items) :
    entries.flatMap (form.rows clock) = items.flatMap (form.read clock) := by
  induction entries generalizing items with
  | nil =>
    cases written
    rfl
  | cons a rest ih =>
    cases first : form.toJson a with
    | error fault =>
      rw [mapM_cons_error first] at written
      nomatch written
    | ok j =>
      rw [mapM_cons_ok first] at written
      cases further : rest.mapM form.toJson with
      | error fault => rw [further] at written; nomatch written
      | ok js =>
        rw [further] at written
        cases written
        rw [List.flatMap_cons, List.flatMap_cons, ih further, form.legible clock a j first]

theorem Form.flatMap_even (form : Form α) (clock : Instant) (entries : List α) :
    ∀ row ∈ entries.flatMap (form.rows clock), row.length = form.headings.length := by
  intro row among
  obtain ⟨a, _, among⟩ := List.mem_flatMap.mp among
  exact form.even clock a row among

/-- A command that shows what it gathered as its form says. -/
theorem modesAgree
    (shows : ∀ clock json l, run clock json l =
      (match (collect l).1 with
        | .error fault => .error (.query fault)
        | .ok entries =>
          if json then
            ((entries.mapM form.toJson).map fun items => (Json.array items).pretty).mapError
              .writing
          else .ok (table form.headings (entries.flatMap (form.rows clock)) form.placeholder),
        (collect l).2)) : ModesAgree form collect run where
  ledger clock json l := by rw [shows]
  fails clock json l fault failed := by rw [shows, failed]
  json clock l entries gathered := by
    rw [shows, gathered]
    rfl
  written clock l entries items gathered written := by
    rw [shows, gathered]
    refine ⟨(Json.array items).pretty, ?_, Json.writes_pretty _⟩
    dsimp only
    rw [if_pos rfl, written]
    rfl
  table clock l entries gathered := by
    rw [shows, gathered]
    exact ⟨_, rfl, fun some => tabulates_table some (form.flatMap_even clock entries) _⟩
  rows clock l entries items _ written := form.flatMap_read clock written
  placeholder clock l entries gathered := by
    have shown : (run clock false l).1 =
        .ok (table form.headings (entries.flatMap (form.rows clock)) form.placeholder) := by
      rw [shows, gathered]
      rfl
    rw [shown, Except.ok.injEq]
    exact table_eq_none_iff form.oneLine (form.flatMap_even clock entries)

/-- What can always be written does not fail once it is gathered. -/
theorem ModesAgree.writes (agree : ModesAgree form collect run) {toJson : α → Json}
    (written : ∀ a, form.toJson a = .ok (toJson a)) (clock : Instant) (json : Bool) (l : Ledger)
    (fault : Instant.WritingFault) : (run clock json l).1 ≠ .error (.writing fault) := by
  cases gathered : (collect l).1 with
  | error cause =>
    rw [agree.fails clock json l cause gathered]
    nofun
  | ok entries =>
    have items := mapM_ok written entries
    cases json with
    | false =>
      obtain ⟨text, shown, -⟩ := agree.table clock l entries gathered
      rw [shown]
      nofun
    | true =>
      rw [agree.json clock l entries gathered, items]
      nofun

/-- A command whose entries can always be written. -/
theorem modesAgree_present {toJson : α → Json}
    (written : ∀ a, form.toJson a = .ok (toJson a))
    (shows : ∀ clock json l, run clock json l =
      (match (collect l).1 with
        | .error fault => .error (.query fault)
        | .ok entries => .ok (present json (.array (entries.map toJson)) form.headings
            (entries.flatMap (form.rows clock)) form.placeholder),
        (collect l).2)) : ModesAgree form collect run := by
  refine modesAgree fun clock json l => ?_
  rw [shows]
  cases (collect l).1 with
  | error fault => rfl
  | ok entries =>
    simp only [mapM_ok written]
    cases json <;> rfl

/-- A command whose entries can always be written and have one row each. -/
theorem modesAgree_rows {toJson : α → Json} {row : α → List String}
    (written : ∀ a, form.toJson a = .ok (toJson a))
    (single : ∀ clock a, form.rows clock a = [row a])
    (shows : ∀ clock json l, run clock json l =
      (match (collect l).1 with
        | .error fault => .error (.query fault)
        | .ok entries => .ok (present json (.array (entries.map toJson)) form.headings
            (entries.map row) form.placeholder),
        (collect l).2)) : ModesAgree form collect run := by
  refine modesAgree_present written fun clock json l => ?_
  have singles : form.rows clock = fun a => [row a] := funext (single clock)
  rw [shows]
  cases (collect l).1 with
  | error fault => rfl
  | ok entries =>
    dsimp only
    rw [singles, ← List.map_eq_flatMap]

end Forms

section Commands

variable (e : Engine) (files : FileSystem NativeLibrary)

theorem units_modesAgree (sorted : Bool) :
    ModesAgree unitForm (unitEntries e sorted)
      fun clock json => (Command.units sorted).run e files clock json := by
  refine modesAgree fun clock json l => ?_
  rw [Command.run, units, bind_apply]
  cases (unitEntries e sorted l).1 with
  | error fault => rfl
  | ok entries =>
    have rows : entries.map (unitRow clock) = entries.flatMap (unitForm.rows clock) :=
      List.map_eq_flatMap
    dsimp only
    rw [rows]
    cases json <;> rfl

theorem includes_modesAgree (unit mainFile : Option String) :
    ModesAgree includesForm (includesEntries e unit mainFile)
      fun clock json => (Command.includes unit mainFile).run e files clock json := by
  refine modesAgree_present (fun _ => rfl) fun clock json l => ?_
  rw [Command.run, includes, bind_apply]
  cases (includesEntries e unit mainFile l).1 <;> rfl

theorem records_modesAgree (unit : String) :
    ModesAgree recordForm (recordEntries e unit)
      fun clock json => (Command.records unit).run e files clock json := by
  refine modesAgree_rows (fun _ => rfl) (fun _ _ => rfl) fun clock json l => ?_
  rw [Command.run, records, bind_apply]
  cases (recordEntries e unit l).1 <;> rfl

theorem occurrences_modesAgree (record : String) (usr : Option String)
    (start count : Option UInt32) :
    ModesAgree occurrenceForm (occurrenceEntries e record usr (Command.lines start count))
      fun clock json => (Command.occurrences record usr start count).run e files clock json := by
  refine modesAgree_rows (fun _ => rfl) (fun _ _ => rfl) fun clock json l => ?_
  rw [Command.run, occurrences, bind_apply]
  cases (occurrenceEntries e record usr (Command.lines start count) l).1 <;> rfl

theorem stale_modesAgree (unit : Option String) (onlyStale : Bool) :
    ModesAgree staleForm (staleEntries e files unit onlyStale)
      fun clock json => (Command.stale unit onlyStale).run e files clock json := by
  refine modesAgree_rows (fun _ => rfl) (fun _ _ => rfl) fun clock json l => ?_
  rw [Command.run, stale, bind_apply]
  cases (staleEntries e files unit onlyStale l).1 <;> rfl

end Commands

end Report

end CodeIndex
