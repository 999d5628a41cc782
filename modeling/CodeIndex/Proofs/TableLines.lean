import CodeIndex.Report.Table
import Mathlib.Data.List.Forall2
import Mathlib.Order.Bounds.Basic
/-!
# Lines of a table

A printed table is told by its lines: those of the headings, one line below them, and those of each
row in turn. A row takes as many lines as its cell of the most lines, and shows on each of them the
lines of its cells side by side. Columns are as wide as their widest line and no wider, so nothing
of a cell is cut off, and where a column begins is the same on every line.
-/
namespace CodeIndex.Report

/-- A line in a column: a blank, the line, as many blanks as the column is wider, and a blank. -/
def Fills (width : Nat) (line field : List Char) : Prop :=
  ∃ fill, Text.columns line + fill = width ∧ field = ' ' :: line ++ List.replicate fill ' ' ++ [' ']

/-- A row as it is printed. Where a cell has no more lines it is left blank. -/
structure ShowsRow (widths : List Nat) (row : List String) (block : List (List Char)) : Prop where
  cells : row.length = widths.length
  height : IsGreatest {n | n = 1 ∨ ∃ cell ∈ row, n = (Text.pieces '\n' cell.toList).length}
    block.length
  line : ∀ (n : Nat) line, block[n]? = some line → ∃ fields, line = ['|'].intercalate fields ∧
    List.Forall₂ (fun (column : String × Nat) field =>
      Fills column.2 ((Text.pieces '\n' column.1.toList)[n]?.getD []) field) (row.zip widths) fields

/-- A table of rows under headings, by the lines that are printed. -/
def Tabulates (headings : List String) (rows : List (List String)) (text : String) : Prop :=
  ∃ widths heading blocks,
    Text.pieces '\n' text.toList = heading ++
      ['+'].intercalate (widths.map fun width => List.replicate (width + 2) '-') ::
        blocks.flatten ∧
    ShowsRow widths headings heading ∧
    List.Forall₂ (ShowsRow widths) rows blocks ∧
    ∀ (column : Nat) width, widths[column]? = some width →
      ∃ row ∈ headings :: rows, ∃ cell, row[column]? = some cell ∧
        ∃ line ∈ Text.pieces '\n' cell.toList, width = Text.columns line

section Greatest

variable {α : Type} (f : α → Nat)

/-- The greatest of some numbers and those of a list. -/
theorem isGreatest_foldl_max (items : List α) (start : Nat) :
    IsGreatest {n | n = start ∨ ∃ item ∈ items, n = f item}
      (items.foldl (fun greatest item => max greatest (f item)) start) := by
  induction items generalizing start with
  | nil => simp
  | cons item rest ih =>
    obtain ⟨reached, bounds⟩ := ih (max start (f item))
    constructor
    · rcases reached with here | ⟨other, among, here⟩
      · rcases Nat.le_total start (f item) with less | more
        · exact .inr ⟨item, List.mem_cons_self, here.trans (Nat.max_eq_right less)⟩
        · exact .inl (here.trans (Nat.max_eq_left more))
      · exact .inr ⟨other, List.mem_cons_of_mem _ among, here⟩
    · rintro n (rfl | ⟨other, among, rfl⟩)
      · exact (Nat.le_max_left _ _).trans (bounds (.inl rfl))
      · rcases List.mem_cons.mp among with rfl | among
        · exact (Nat.le_max_right _ _).trans (bounds (.inl rfl))
        · exact bounds (.inr ⟨other, among, rfl⟩)

end Greatest

section Widths

/-- A cell is as wide as its widest line. -/
theorem isGreatest_cellWidth (cell : String) :
    IsGreatest {n | ∃ line ∈ Text.pieces '\n' cell.toList, n = Text.columns line}
      (cellWidth cell) := by
  obtain ⟨reached, bounds⟩ := isGreatest_foldl_max Text.columns (cellLines cell) 0
  refine ⟨?_, fun n wide => bounds (.inr wide)⟩
  rcases reached with none | wide
  · -- There is a line, and it is no wider than the widest.
    obtain ⟨line, among⟩ := List.exists_mem_of_ne_nil _ (Text.pieces_ne_nil '\n' cell.toList)
    have narrow : Text.columns line ≤ 0 := none ▸ bounds (.inr ⟨line, among, rfl⟩)
    exact ⟨line, among, none.trans (Nat.le_zero.mp narrow).symm⟩
  · exact wide

variable {rows : List (List String)} {columns column width : Nat}

theorem length_columnWidths : (columnWidths rows columns).length = columns := by
  simp [columnWidths]

/-- A column is as wide as the widest of its cells. -/
theorem isGreatest_columnWidths (stands : (columnWidths rows columns)[column]? = some width) :
    column < columns ∧
      IsGreatest {n | n = 0 ∨ ∃ row ∈ rows, n = cellWidth (row.getD column "")} width := by
  rw [columnWidths, List.getElem?_map, Option.map_eq_some_iff] at stands
  obtain ⟨place, found, widest⟩ := stands
  obtain ⟨inside, same⟩ : column < columns ∧ column = place := by
    simpa [List.getElem?_eq_some_iff] using found
  have greatest := isGreatest_foldl_max (fun row => cellWidth (row.getD place "")) rows 0
  rw [widest, ← same] at greatest
  exact ⟨inside, greatest⟩

/-- A line of a cell fits into the cell's column. -/
theorem columns_le_width {row : List String} {cell : String} {line : List Char}
    (stands : (columnWidths rows columns)[column]? = some width) (among : row ∈ rows)
    (here : row[column]? = some cell) (lines : line ∈ Text.pieces '\n' cell.toList) :
    Text.columns line ≤ width := by
  have cells : row.getD column "" = cell := by rw [List.getD_eq_getElem?_getD, here]; rfl
  calc Text.columns line ≤ cellWidth cell := (isGreatest_cellWidth cell).2 ⟨line, lines, rfl⟩
    _ ≤ width := (isGreatest_columnWidths stands).2.2 (.inr ⟨row, among, cells ▸ rfl⟩)

/-- Where all rows have a cell, a column is no wider than it must be. -/
theorem exists_widest (some : rows ≠ []) (even : ∀ row ∈ rows, row.length = columns)
    (stands : (columnWidths rows columns)[column]? = .some width) :
    ∃ row ∈ rows, ∃ cell, row[column]? = .some cell ∧
      ∃ line ∈ Text.pieces '\n' cell.toList, width = Text.columns line := by
  obtain ⟨inside, reached, bounds⟩ := isGreatest_columnWidths stands
  have widest : ∃ row ∈ rows, width = cellWidth (row.getD column "") := by
    rcases reached with none | wide
    · obtain ⟨row, among⟩ := List.exists_mem_of_ne_nil _ some
      have narrow := bounds (.inr ⟨row, among, rfl⟩)
      exact ⟨row, among, by omega⟩
    · exact wide
  obtain ⟨row, among, rfl⟩ := widest
  have inside : column < row.length := (even row among).symm ▸ inside
  have cell : row[column]? = .some (row.getD column "") := by
    rw [List.getD_eq_getElem?_getD, List.getElem?_eq_getElem inside]
    rfl
  exact ⟨row, among, _, cell, (isGreatest_cellWidth _).1⟩

end Widths

section Printing

variable {rows : List (List String)} {columns : Nat} {row : List String}

/-- The line of a cell that is printed on a line of its row. -/
theorem fills_paddedLine {width : Nat} {line : List Char} (fits : Text.columns line ≤ width) :
    Fills width line (paddedLine width line) :=
  ⟨width - Text.columns line, by omega, rfl⟩

/-- The lines of a row show it. -/
theorem showsRow_rowLines (among : row ∈ rows) (even : row.length = columns) :
    ShowsRow (columnWidths rows columns) row (rowLines (columnWidths rows columns) row) where
  cells := by rw [length_columnWidths, even]
  height := by
    have lines : (rowLines (columnWidths rows columns) row).length = rowHeight row := by
      simp [rowLines]
    rw [lines]
    exact isGreatest_foldl_max (fun cell => (cellLines cell).length) row 1
  line n line stands := by
    rw [rowLines, List.getElem?_map, Option.map_eq_some_iff] at stands
    obtain ⟨place, found, rfl⟩ := stands
    obtain ⟨_, rfl⟩ := List.getElem?_eq_some_iff.mp found
    rw [List.getElem_range]
    refine ⟨_, rfl, List.forall₂_map_right_iff.mpr (List.forall₂_same.mpr ?_)⟩
    rintro ⟨cell, width⟩ beside
    have fits : Text.columns ((cellLines cell)[n]?.getD []) ≤ width := by
      cases lines : (cellLines cell)[n]? with
      | none => exact Nat.zero_le _
      | some line =>
        obtain ⟨column, stands⟩ := List.getElem?_of_mem beside
        obtain ⟨here, wide⟩ := List.getElem?_zip_eq_some.mp stands
        exact columns_le_width wide among here (List.mem_of_getElem? lines)
    dsimp only
    rw [List.getD_eq_getElem?_getD]
    exact fills_paddedLine fits

/-- No line of a row goes on to another line. -/
theorem newline_not_mem_rowLines {widths : List Nat} {line : List Char}
    (among : line ∈ rowLines widths row) : '\n' ∉ line := by
  intro broken
  obtain ⟨n, -, rfl⟩ := List.mem_map.mp among
  rcases Text.mem_intercalate broken with bar | ⟨field, listed, broken⟩
  · cases bar
  · obtain ⟨⟨cell, width⟩, -, rfl⟩ := List.mem_map.mp listed
    have inside : '\n' ∈ (cellLines cell).getD n [] := by
      simpa [paddedLine, blanks] using broken
    rw [List.getD_eq_getElem?_getD] at inside
    cases lines : (cellLines cell)[n]? with
    | none => rw [lines] at inside; cases inside
    | some line =>
      rw [lines] at inside
      exact Text.not_mem_of_mem_pieces (List.mem_of_getElem? lines) inside

theorem newline_not_mem_rule (widths : List Nat) : '\n' ∉ rule widths := by
  intro broken
  rcases Text.mem_intercalate broken with cross | ⟨field, listed, broken⟩
  · cases cross
  · obtain ⟨width, -, rfl⟩ := List.mem_map.mp listed
    cases List.eq_of_mem_replicate broken

end Printing

/-- What is printed of rows is a table of them. -/
theorem tabulates_table {headings : List String} {rows : List (List String)} (some : rows ≠ [])
    (even : ∀ row ∈ rows, row.length = headings.length) (none : String) :
    Tabulates headings rows (table headings rows none) := by
  let widths := columnWidths (headings :: rows) headings.length
  have even : ∀ row ∈ headings :: rows, row.length = headings.length := by
    simpa using even
  have filled : rows.isEmpty = false := by simpa using some
  refine ⟨widths, rowLines widths headings, rows.map (rowLines widths), ?_, ?_, ?_, ?_⟩
  · have lines : (table headings rows none).toList = ['\n'].intercalate
        (rowLines widths headings ++ rule widths :: rows.flatMap (rowLines widths)) := by
      rw [table, filled]
      exact String.toList_ofList
    rw [lines, ← List.flatMap_def, Text.pieces_intercalate (by simp)]
    · rfl
    · intro line among
      simp only [List.mem_append, List.mem_cons, List.mem_flatMap] at among
      rcases among with heading | rfl | ⟨row, _, among⟩
      · exact newline_not_mem_rowLines heading
      · exact newline_not_mem_rule widths
      · exact newline_not_mem_rowLines among
  · exact showsRow_rowLines List.mem_cons_self rfl
  · refine List.forall₂_map_right_iff.mpr (List.forall₂_same.mpr fun row among => ?_)
    exact showsRow_rowLines (List.mem_cons_of_mem _ among) (even row (List.mem_cons_of_mem _ among))
  · exact fun column width => exists_widest (List.cons_ne_nil _ _) even

/-- A table has several lines. -/
theorem Tabulates.newline_mem {headings : List String} {rows : List (List String)} {text : String}
    (h : Tabulates headings rows text) : '\n' ∈ text.toList := by
  obtain ⟨widths, heading, blocks, lines, shows, -, -⟩ := h
  have tall : 1 ≤ heading.length := shows.height.2 (.inl rfl)
  by_contra single
  rw [Text.pieces_of_not_mem single] at lines
  have count := congrArg List.length lines
  simp only [List.length_append, List.length_cons, List.length_nil] at count
  omega

/-- A table is the sentence for no rows exactly when there are none. -/
theorem table_eq_none_iff {headings : List String} {rows : List (List String)} {none : String}
    (oneLine : '\n' ∉ none.toList) (even : ∀ row ∈ rows, row.length = headings.length) :
    table headings rows none = none ↔ rows = [] := by
  constructor
  · intro same
    by_contra some
    have several := (tabulates_table some even none).newline_mem
    rw [same] at several
    exact oneLine several
  · rintro rfl
    rfl

end CodeIndex.Report
