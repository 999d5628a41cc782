import CodeIndex.Command.Run
import CodeIndex.Proofs.Binding
import CodeIndex.Proofs.LineRanges
import CodeIndex.Proofs.RecordOutcomes
/-!
# Filters on occurrences

The occurrences of a record can be asked for by the USR of their symbol and by their lines. Either
way a part of them is listed, in their order and with all that is listed of each without a filter.
The range of lines is cut out by the engine and the USR is tested on what it lends; the order of the
two makes no difference where the engine cuts out a range by testing occurrences.

A USR is compared by its octets. Listed it is text, with U+FFFD for what is none, so a USR that is
not text cannot be asked for: what is listed of it is the USR of other symbols.
-/
namespace CodeIndex

open Report

namespace Occurrence

def hasUsr (usr : String) (o : Occurrence) : Bool := o.symbol.usr == Utf8.encode usr

/-- What is listed of an occurrence: its place, its roles, its symbol as text, and for each relation
in turn the roles and the USR of the related symbol as text. -/
def listed (o : Occurrence) : OccurrenceInfo where
  symbol := o.symbol.snapshot
  roles := o.roles
  line := o.line
  column := o.column
  relations := o.relations.map fun r => ⟨r.roles, Utf8.lossy r.symbol.usr⟩

/-- An occurrence has the USR that its octets are the text of, and no other. -/
theorem hasUsr_iff {usr : String} {o : Occurrence} :
    o.hasUsr usr ↔ Utf8.decode o.symbol.usr = .ok usr := by
  rw [hasUsr, beq_iff_eq]
  constructor
  · intro same
    rw [same, Utf8.decode_encode]
  · intro text
    rw [Utf8.encode_of_decode text]

end Occurrence

def ofSymbol (usr : Option String) (items : List Occurrence) : List Occurrence :=
  match usr with
  | none => items
  | some usr => items.filter (·.hasUsr usr)

def printed (json : Bool) (items : List Occurrence) : String :=
  present json (.array (items.map fun o => o.listed.toJson))
    ["Line", "Col", "Symbol", "Kind", "Roles", "USR"] (items.map fun o => occurrenceRow o.listed)
    "No occurrences found."

section Copies

variable {α β : Type} {f : α → Access β} {g : α → β}

/-- Images that do not depend on what was lent before are those of each item alone. -/
theorem Lending.mapCollect_fst (image : ∀ item l, (f item l).1 = g item) (items : Lending α)
    (l : Ledger) : (items.mapCollect f l).1 = items.items.map g := by
  rw [Lending.mapCollect_eq_mapM]
  induction items.items generalizing l with
  | nil => rfl
  | cons item rest ih =>
    have first : (Lending.lend f item l).1 = g item := image item l.lend
    rw [List.mapM_cons, bind_apply, bind_apply, pure_apply, first, ih]
    rfl

theorem Occurrence.snapshot_fst (e : Engine) (o : Occurrence) (l : Ledger) :
    (o.snapshot e l).1 = o.listed := by
  have relations := (o.lendRelations e).mapCollect_pure Relation.snapshot l
  rw [Occurrence.snapshot, bind_apply, relations]
  rfl

/-- What a visitor takes of an occurrence. -/
theorem takeOccurrence_fst (e : Engine) (usr : Option String) (o : Occurrence) (l : Ledger) :
    (takeOccurrence e usr o l).1 = if usr.all o.hasUsr then some o.listed else none := by
  have test : (usr.all fun usr => o.symbol.usr == Utf8.encode usr) = usr.all o.hasUsr := rfl
  rw [takeOccurrence, test]
  split
  · rw [bind_apply, pure_apply, Occurrence.snapshot_fst]
  · rfl

end Copies

/-- A command on the occurrences of a record lists these, and prints what it lists. -/
structure Shows (e : Engine) (record : String) (usr : Option String)
    (lines : Option (UInt32 × UInt32)) (l : Ledger) (items : List Occurrence) : Prop where
  entries : (occurrenceEntries e record usr lines l).1 = .ok (items.map Occurrence.listed)
  printed (start count : Option UInt32) (files : FileSystem NativeLibrary) (clock : Instant)
    (json : Bool) : Command.lines start count = lines →
    ((Command.occurrences record usr start count).run e files clock json l).1 =
      .ok (printed json items)

structure Refuses (e : Engine) (record : String) (usr : Option String)
    (lines : Option (UInt32 × UInt32)) (l : Ledger) (fault : Fault) : Prop where
  entries : (occurrenceEntries e record usr lines l).1 = .error fault
  printed (start count : Option UInt32) (files : FileSystem NativeLibrary) (clock : Instant)
    (json : Bool) : Command.lines start count = lines →
    ((Command.occurrences record usr start count).run e files clock json l).1 =
      .error (.query fault)

section Shown

variable {e : Engine} {record : String} {usr : Option String} {lines : Option (UInt32 × UInt32)}
  {l : Ledger}

/-- What a command prints is told by the entries it has gathered. -/
theorem occurrences_fst (json : Bool) : (occurrences e record usr lines json l).1 =
    match (occurrenceEntries e record usr lines l).1 with
    | .error fault => .error (.query fault)
    | .ok entries => .ok (present json (.array (entries.map (·.toJson)))
        ["Line", "Col", "Symbol", "Kind", "Roles", "USR"] (entries.map occurrenceRow)
        "No occurrences found.") := by
  rw [occurrences, bind_apply]
  cases (occurrenceEntries e record usr lines l).1 <;> rfl

theorem shows_of_entries {items : List Occurrence}
    (entries : (occurrenceEntries e record usr lines l).1 = .ok (items.map Occurrence.listed)) :
    Shows e record usr lines l items where
  entries := entries
  printed start count files clock json given := by
    rw [Command.run, given, occurrences_fst, entries]
    simp only [printed, List.map_map, Function.comp_def]

theorem refuses_of_entries {fault : Fault}
    (entries : (occurrenceEntries e record usr lines l).1 = .error fault) :
    Refuses e record usr lines l fault where
  entries := entries
  printed start count files clock json given := by
    rw [Command.run, given, occurrences_fst, entries]

/-- What is left of what a visitor took. -/
theorem filterMap_taken (usr : Option String) (items : List Occurrence) :
    (items.map fun o => if usr.all o.hasUsr then some o.listed else none).filterMap id =
      (ofSymbol usr items).map Occurrence.listed := by
  rw [List.filterMap_map]
  cases usr with
  | none =>
    rw [ofSymbol, ← List.filterMap_eq_map]
    rfl
  | some usr =>
    rw [ofSymbol]
    induction items with
    | nil => rfl
    | cons o rest ih =>
      have test : (some usr).all o.hasUsr = o.hasUsr usr := rfl
      rw [List.filterMap_cons, List.filter_cons, ih, Function.comp_apply, test]
      cases o.hasUsr usr <;> rfl

end Shown

section Opened

variable {e : Engine} {answer : String → Except String RecordReader} {record : String} {l : Ledger}

/-- What can be read in a record that is opened by its name. -/
theorem openRecord_reader (h : e.AnswersRecords answer) (record : String) (l : Ledger) :
    (e.openRecord record none l).1.map OpenRecord.reader =
      if hasNul record then .error (.recordOpen record "record name contains a NUL byte")
      else (answer record).mapError (.recordOpen record) := by
  rw [Engine.openRecord]
  split
  · rfl
  · rw [← h record l, bind_apply]
    rcases (e.createRecord record l).1 with message | ⟨handle, reader⟩ <;> rfl

/-- A record opens another time just as it did, and the same can be read in it. -/
theorem openRecord_again (h : e.AnswersRecords answer) (record : String) (l l' : Ledger) :
    (e.openRecord record none l').1.map OpenRecord.reader =
      (e.openRecord record none l).1.map OpenRecord.reader := by
  rw [openRecord_reader h, openRecord_reader h]

/-- A record that does not open is not listed. -/
theorem occurrenceEntries_refused {fault : Fault} (usr : Option String)
    (lines : Option (UInt32 × UInt32)) (refused : (e.openRecord record none l).1 = .error fault) :
    (occurrenceEntries e record usr lines l).1 = .error fault := by
  rw [occurrenceEntries, bind_apply, refused]
  rfl

/-- What is listed of a record are the occurrences it lends that have the USR. -/
theorem occurrenceEntries_opened {r : OpenRecord} (usr : Option String)
    (lines : Option (UInt32 × UInt32)) (opened : (e.openRecord record none l).1 = .ok r) :
    (occurrenceEntries e record usr lines l).1 =
      .ok ((ofSymbol usr (r.occurrences e lines).items).map Occurrence.listed) := by
  have taken := Lending.mapCollect_fst (takeOccurrence_fst e usr) (r.occurrences e lines)
  rw [occurrenceEntries, bind_apply, opened]
  simp only [bind_apply, pure_apply, taken, filterMap_taken]

theorem items_of_reader {r r' : OpenRecord} (same : r'.reader = r.reader)
    (lines : Option (UInt32 × UInt32)) :
    (r'.occurrences e lines).items = (r.occurrences e lines).items := by
  cases lines <;> simp [OpenRecord.occurrences, same]

end Opened

/-- The test of the USR is a filter of what is listed without it, with any range of lines. -/
structure FiltersByUsr (e : Engine) : Prop where
  /-- What is listed are occurrences that the record lends. -/
  shown (record : String) (r : OpenRecord) (l l' : Ledger) (usr : Option String)
    (lines : Option (UInt32 × UInt32)) : (e.openRecord record none l).1 = .ok r →
    Shows e record usr lines l' (ofSymbol usr (r.occurrences e lines).items)
  /-- A record that does not open fails with and without filters. -/
  refused (record : String) (fault : Fault) (l l' : Ledger) (usr : Option String)
    (lines : Option (UInt32 × UInt32)) : (e.openRecord record none l).1 = .error fault →
    Refuses e record usr lines l' fault

/-- A range of lines is a filter too, and it makes no difference which of the two comes first. -/
structure FiltersCommute (e : Engine) (within : (start count : UInt32) → Occurrence → Bool) :
    Prop where
  shown (record : String) (r : OpenRecord) (l l' : Ledger) (usr : String) (start count : UInt32) :
    (e.openRecord record none l).1 = .ok r →
    let all := (r.occurrences e none).items
    Shows e record none (some (start, count)) l' (all.filter (within start count)) ∧
      Shows e record (some usr) (some (start, count)) l'
        ((all.filter (within start count)).filter (·.hasUsr usr)) ∧
      Shows e record (some usr) (some (start, count)) l'
        ((all.filter (·.hasUsr usr)).filter (within start count))

theorem Engine.AnswersRecords.filtersByUsr {e : Engine}
    {answer : String → Except String RecordReader} (h : e.AnswersRecords answer) :
    FiltersByUsr e where
  shown record r l l' usr lines opened := by
    have again := openRecord_again h record l l'
    rw [opened] at again
    cases opened' : (e.openRecord record none l').1 with
    | error fault => rw [opened'] at again; nomatch again
    | ok r' =>
      rw [opened'] at again
      have same : r'.reader = r.reader := Except.ok.inj again
      rw [← items_of_reader same lines]
      exact shows_of_entries (occurrenceEntries_opened usr lines opened')
  refused record fault l l' usr lines refused := by
    have again := openRecord_again h record l l'
    rw [refused] at again
    cases opened' : (e.openRecord record none l').1 with
    | error fault' =>
      rw [opened'] at again
      cases again
      exact refuses_of_entries (occurrenceEntries_refused usr lines opened')
    | ok r' => rw [opened'] at again; nomatch again

/-- Ranges that are cut out of each record by testing its occurrences. -/
def CutsOut {ε : Type} (answer : String → Except ε RecordReader)
    (within : (start count : UInt32) → Occurrence → Bool) : Prop :=
  ∀ name reader, answer name = .ok reader → ∀ start count,
    reader.inLines start count = reader.occurrences.filter (within start count)

theorem Engine.AnswersRecords.filtersCommute {e : Engine}
    {answer : String → Except String RecordReader} (h : e.AnswersRecords answer)
    {within : (start count : UInt32) → Occurrence → Bool} (cuts : CutsOut answer within) :
    FiltersCommute e within where
  shown record r l l' usr start count opened := by
    intro all
    have shown := h.filtersByUsr.shown record r l l'
    have read := openRecord_reader h record l
    rw [opened] at read
    have reads : answer record = .ok r.reader := by
      split at read
      · nomatch read
      · cases answered : answer record with
        | error message => rw [answered] at read; nomatch read
        | ok reader => rw [answered] at read; exact congrArg Except.ok (Except.ok.inj read).symm
    have range : (r.occurrences e (some (start, count))).items = all.filter (within start count) :=
      cuts record r.reader reads start count
    have byRange := shown none (some (start, count)) opened
    have byUsr := shown (some usr) (some (start, count)) opened
    rw [range] at byRange byUsr
    refine ⟨byRange, byUsr, ?_⟩
    rw [List.filter_filter, List.filter_congr fun o _ => Bool.and_comm _ _, ← List.filter_filter]
    exact byUsr

section Engines

/-- In memory a range has the occurrences on its lines. -/
theorem Tables.cutsOut (t : Tables) :
    CutsOut (fun name => (t.openRecord name).map t.recordReader)
      fun start count o => Tables.inLines start count o.line := by
  intro name reader opened start count
  dsimp only at opened
  cases found : t.openRecord name with
  | error message => rw [found] at opened; nomatch opened
  | ok handle =>
    rw [found] at opened
    cases opened
    exact t.inLines_recordReader handle start count

/-- So it has where a native library holds declared contents. -/
theorem NativeLibrary.cutsOut (lib : NativeLibrary) :
    CutsOut lib.functions.openRecord fun start count o => lineWithin start count o.line := by
  intro name reader opened start count
  rw [NativeFunctions.openRecord] at opened
  cases found : lib.functions.record name with
  | error failure =>
    rw [found] at opened
    cases opened
  | ok r =>
    rw [found] at opened
    cases opened
    simp only [Accessors.recordReader, NativeFunctions.accessors, functions, List.filter_map]
    rfl

theorem CutsOut.report {answer : String → Except NativeFailure RecordReader}
    {within : (start count : UInt32) → Occurrence → Bool} (cuts : CutsOut answer within) :
    CutsOut (fun name => (answer name).mapError NativeFailure.report) within := by
  intro name reader opened
  dsimp only at opened
  cases found : answer name with
  | error failure => rw [found] at opened; nomatch opened
  | ok reader' =>
    rw [found] at opened
    cases opened
    exact cuts name reader found

end Engines

/-- The occurrences of a record are filtered by USR and by lines with either engine. An occurrence
is selected by its USR just when this is text and the text asked for. -/
theorem occurrences_filtered :
    (∀ (t : Tables) (settings : MemorySettings), FiltersByUsr (t.engine settings) ∧
      FiltersCommute (t.engine settings) fun start count o => Tables.inLines start count o.line) ∧
    (∀ (P : Pointee → Type) (f : NativeFunctions P), FiltersByUsr f.engine ∧
      ∀ within, CutsOut f.openRecord within → FiltersCommute f.engine within) ∧
    (∀ lib : NativeLibrary,
      FiltersCommute lib.engine fun start count o => lineWithin start count o.line) ∧
    (∀ (usr : String) (o : Occurrence), o.hasUsr usr ↔ Utf8.decode o.symbol.usr = .ok usr) ∧
    ∀ (o : Occurrence) (fault : Utf8.Fault), Utf8.decode o.symbol.usr = .error fault →
      o.hasUsr o.listed.symbol.usr = false := by
  refine ⟨fun t settings => ?_, fun _ f => ?_, fun lib => ?_, fun _ _ => Occurrence.hasUsr_iff, ?_⟩
  · have answers := t.answersRecords settings
    exact ⟨answers.filtersByUsr, answers.filtersCommute t.cutsOut⟩
  · have answers := f.answersRecords
    exact ⟨answers.filtersByUsr, fun within cuts => answers.filtersCommute cuts.report⟩
  · exact lib.functions.answersRecords.filtersCommute lib.cutsOut.report
  · intro o fault unread
    rw [Bool.eq_false_iff, ne_eq, Occurrence.hasUsr_iff, unread]
    nofun

/-- A library with a record of two symbols whose USRs are listed alike: the octets of the first are
no text, and those of the second are U+FFFD. -/
def NativeLibrary.listedAlike : NativeLibrary where
  contents := ⟨[], [{
    name := .pointing (Utf8.encode "r")
    symbols := [[0xFF], [0xEF, 0xBF, 0xBD]].map fun usr =>
      ⟨12, 0, 0, 0, 0, 0, .null 0, .pointing usr, .null 0⟩
    occurrences := [⟨0, 1, 2, 1, []⟩, ⟨1, 1, 3, 1, []⟩, ⟨1, 1, 7, 1, []⟩]
    failure := none }]⟩

theorem occurrences_filtered_listedAlike :
    let f := NativeLibrary.listedAlike.functions
    let within := fun (start count : UInt32) (o : Occurrence) => lineWithin start count o.line
    CutsOut f.openRecord within ∧ FiltersCommute f.engine within ∧
      ((occurrenceEntries f.engine "r" (some "\uFFFD") (some (1, 5)) {}).1.map
        fun entries => entries.map (·.line)) = .ok [3] := by
  have cuts := NativeLibrary.listedAlike.cutsOut
  exact ⟨cuts, (occurrences_filtered.2.1 _ NativeLibrary.listedAlike.functions).2 _ cuts, rfl⟩

end CodeIndex
