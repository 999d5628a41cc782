import CodeIndex.Engine.Tables
import CodeIndex.Proofs.NativeObjects
import Mathlib.Data.Multiset.Basic
import Mathlib.Data.Nat.Digits.Defs
import Mathlib.Order.Bounds.Basic
/-!
# The shape of a store

Whether a store opens is decided by the shape of its directory alone: what its path leads to, and
which of the names listed in it are format directories. Only a directory that holds the format the
library reads is shown to the engine, once, and what the engine says is the outcome. Every other
shape has a fault of its own, and none of them depends on the order of the listing.
-/
namespace CodeIndex

def digitValue (c : Char) : Nat := c.toNat - '0'.toNat

/-- A `v` and one or more decimal digits that write a format, with or without leading zeros. -/
def NamesFormat (name : String) (version : UInt32) : Prop :=
  ∃ digits, name.toList = 'v' :: digits ∧ digits ≠ [] ∧ (∀ c ∈ digits, c.isDigit) ∧
    Nat.ofDigits 10 (digits.map digitValue).reverse = version.toNat

/-- The digits of a number are read from the most significant one on. -/
theorem decimalFrom_eq_ofDigits (digits : List Char) :
    Text.decimalFrom 0 digits = Nat.ofDigits 10 (digits.map digitValue).reverse := by
  rw [Nat.ofDigits_eq_foldr, List.foldr_reverse, List.foldl_map]
  simp only [Text.decimalFrom, digitValue, Nat.cast_id, Nat.add_comm]

theorem FileSystem.isDirectory_iff {ι : Type} {files : FileSystem ι} {p : Path} :
    files.isDirectory p = true ↔
      ∃ node, files.metadata p = .ok node ∧ node.isDirectory = true := by
  rw [isDirectory]
  cases files.metadata p <;> simp

namespace Store

theorem formatVersion?_eq_some_iff {name : String} {version : UInt32} :
    formatVersion? name = some version ↔ NamesFormat name version := by
  have digitsOf (digits : List Char) : Text.word? digits = some version ↔
      digits ≠ [] ∧ (∀ c ∈ digits, c.isDigit) ∧
        Nat.ofDigits 10 (digits.map digitValue).reverse = version.toNat := by
    rw [Text.word?_eq_some_iff, Text.decimal?_eq_some_iff, List.all_eq_true,
      decimalFrom_eq_ofDigits]
  unfold formatVersion? NamesFormat
  split
  · rename_i digits spelled
    rw [digitsOf, spelled]
    constructor
    · exact fun written => ⟨digits, rfl, written⟩
    · rintro ⟨_, same, written⟩
      cases same
      exact written
  · rename_i other
    constructor
    · nofun
    · rintro ⟨digits, spelled, -⟩
      exact (other digits spelled).elim

theorem largest_eq_none_iff {versions : List UInt32} : largest versions = none ↔ versions = [] := by
  cases versions with
  | nil => simp [largest]
  | cons v rest =>
    rw [largest]
    cases largest rest <;> simp

theorem largest_cons (v : UInt32) (rest : List UInt32) :
    largest (v :: rest) = some ((largest rest).elim v fun w => if v < w then w else v) := by
  rw [largest]
  cases largest rest <;> rfl

/-- What is called the largest is one of the formats, and none is above it. -/
theorem isGreatest_of_largest {versions : List UInt32} {found : UInt32}
    (h : largest versions = some found) : IsGreatest {v | v ∈ versions} found := by
  induction versions generalizing found with
  | nil => nomatch h
  | cons v rest ih =>
    rw [largest_cons, Option.some.injEq] at h
    cases inRest : largest rest with
    | none =>
      have single : rest = [] := largest_eq_none_iff.mp inRest
      subst single h
      refine ⟨List.mem_cons_self, fun u among => ?_⟩
      rw [List.mem_singleton.mp among]
      exact UInt32.le_refl _
    | some w =>
      obtain ⟨among, above⟩ := ih inRest
      rw [inRest, Option.elim_some] at h
      split at h
      · rename_i below
        subst h
        refine ⟨List.mem_cons_of_mem _ among, fun u other => ?_⟩
        rcases List.mem_cons.mp other with rfl | other
        · exact UInt32.le_of_lt below
        · exact above other
      · rename_i notBelow
        subst h
        refine ⟨List.mem_cons_self, fun u other => ?_⟩
        rcases List.mem_cons.mp other with rfl | other
        · exact UInt32.le_refl _
        · exact UInt32.le_trans (above other) (UInt32.not_lt.mp notBelow)

theorem largest_eq_some_iff {versions : List UInt32} {found : UInt32} :
    largest versions = some found ↔ IsGreatest {v | v ∈ versions} found := by
  refine ⟨isGreatest_of_largest, fun greatest => ?_⟩
  cases h : largest versions with
  | none =>
    rw [largest_eq_none_iff.mp h] at greatest
    nomatch greatest.1
  | some w =>
    have other := isGreatest_of_largest h
    rw [UInt32.le_antisymm (greatest.2 other.1) (other.2 greatest.1)]

/-- The formats a directory holds: those that its entries are named for, where the entry leads to a
directory. -/
def formatsAt (files : FileSystem NativeLibrary) (path : Path) : Set UInt32 :=
  {v | ∃ names, files.list path = .ok names ∧
    ∃ name ∈ names, files.isDirectory (path.join ⟨name⟩) ∧ NamesFormat name v}

section Looking

variable {files : FileSystem NativeLibrary} {path : Path} {names : List String}

theorem mem_formats {v : UInt32} : v ∈ formats files path names ↔
    ∃ name ∈ names, files.isDirectory (path.join ⟨name⟩) ∧ NamesFormat name v := by
  simp only [formats, List.mem_filterMap, List.mem_filter, formatVersion?_eq_some_iff, and_assoc]

theorem formatsAt_of_list (listed : files.list path = .ok names) :
    formatsAt files path = {v | v ∈ formats files path names} := by
  ext v
  rw [Set.mem_ofPred_eq, mem_formats]
  constructor
  · rintro ⟨_, listed', held⟩
    cases listed.symm.trans listed'
    exact held
  · exact fun held => ⟨names, listed, held⟩

variable {expected found : UInt32}

theorem contains_formats (listed : files.list path = .ok names) :
    (formats files path names).contains expected = true ↔ expected ∈ formatsAt files path := by
  rw [formatsAt_of_list listed, List.contains_iff_mem, Set.mem_ofPred_eq]

theorem largest_formats (listed : files.list path = .ok names) :
    largest (formats files path names) = some found ↔ IsGreatest (formatsAt files path) found := by
  rw [formatsAt_of_list listed, largest_eq_some_iff]

theorem largest_formats_none (listed : files.list path = .ok names) :
    largest (formats files path names) = none ↔ formatsAt files path = ∅ := by
  rw [formatsAt_of_list listed, largest_eq_none_iff, List.eq_nil_iff_forall_not_mem,
    Set.eq_empty_iff_forall_notMem]
  rfl

/-- What the shape of a directory comes to, for a library that reads one format. -/
inductive Shape (files : FileSystem NativeLibrary) (path : Path) (expected : UInt32) :
    Except StoreFault Unit → Prop
  | missing : files.metadata path = .error .notFound →
      Shape files path expected (.error (.missing path))
  | unseen {source : IoFault} : files.metadata path = .error source → source ≠ .notFound →
      Shape files path expected (.error (.io path source))
  | notADirectory {node : Node NativeLibrary} : files.metadata path = .ok node →
      node.isDirectory = false → Shape files path expected (.error (.notADirectory path))
  | unlisted {source : IoFault} : files.isDirectory path → files.list path = .error source →
      Shape files path expected (.error (.io path source))
  | fits : files.isDirectory path → expected ∈ formatsAt files path →
      Shape files path expected (.ok ⟨⟩)
  | notAStore {names : List String} : files.isDirectory path → files.list path = .ok names →
      formatsAt files path = ∅ → Shape files path expected (.error (.notAStore path))
  | unsupported {found : UInt32} : files.isDirectory path → expected ∉ formatsAt files path →
      IsGreatest (formatsAt files path) found →
      Shape files path expected (.error (.unsupportedFormat path found expected))

theorem check_missing (looked : files.metadata path = .error .notFound) :
    check files path expected = .error (.missing path) := by
  rw [check, looked]

theorem check_unseen {source : IoFault} (looked : files.metadata path = .error source)
    (other : source ≠ .notFound) : check files path expected = .error (.io path source) := by
  rw [check, looked]
  cases source <;> first | rfl | exact absurd rfl other

theorem check_notADirectory {node : Node NativeLibrary} (looked : files.metadata path = .ok node)
    (is : node.isDirectory = false) :
    check files path expected = .error (.notADirectory path) := by
  simp only [check, looked, is, Bool.not_false, if_true]

theorem check_unlisted {source : IoFault} (directory : files.isDirectory path)
    (listed : files.list path = .error source) :
    check files path expected = .error (.io path source) := by
  obtain ⟨node, looked, is⟩ := FileSystem.isDirectory_iff.mp directory
  simp only [check, looked, is, listed, Bool.not_true, Bool.false_eq_true, if_false]

theorem check_fits (directory : files.isDirectory path) (has : expected ∈ formatsAt files path) :
    check files path expected = .ok ⟨⟩ := by
  obtain ⟨node, looked, is⟩ := FileSystem.isDirectory_iff.mp directory
  obtain ⟨names, listed, -⟩ := id has
  simp only [check, looked, is, listed, Bool.not_true, Bool.false_eq_true, if_false,
    (contains_formats listed).mpr has, if_true]

theorem check_notAStore (directory : files.isDirectory path) (listed : files.list path = .ok names)
    (empty : formatsAt files path = ∅) :
    check files path expected = .error (.notAStore path) := by
  obtain ⟨node, looked, is⟩ := FileSystem.isDirectory_iff.mp directory
  have lacks : expected ∉ formatsAt files path := empty ▸ Set.notMem_empty expected
  rw [← contains_formats listed] at lacks
  simp only [check, looked, is, listed, Bool.not_true, Bool.false_eq_true, if_false,
    if_neg lacks, (largest_formats_none listed).mpr empty]

theorem check_unsupported (directory : files.isDirectory path)
    (lacks : expected ∉ formatsAt files path) (greatest : IsGreatest (formatsAt files path) found) :
    check files path expected = .error (.unsupportedFormat path found expected) := by
  obtain ⟨node, looked, is⟩ := FileSystem.isDirectory_iff.mp directory
  obtain ⟨names, listed, -⟩ := id greatest.1
  rw [← contains_formats listed] at lacks
  simp only [check, looked, is, listed, Bool.not_true, Bool.false_eq_true, if_false,
    if_neg lacks, (largest_formats listed).mpr greatest]

/-- A directory has one shape. -/
theorem Shape.check_eq {outcome : Except StoreFault Unit}
    (shape : Shape files path expected outcome) : check files path expected = outcome := by
  cases shape with
  | missing looked => exact check_missing looked
  | unseen looked other => exact check_unseen looked other
  | notADirectory looked is => exact check_notADirectory looked is
  | unlisted directory listed => exact check_unlisted directory listed
  | fits directory has => exact check_fits directory has
  | notAStore directory listed empty => exact check_notAStore directory listed empty
  | unsupported directory lacks greatest => exact check_unsupported directory lacks greatest

/-- Every path has a shape. -/
theorem exists_shape (files : FileSystem NativeLibrary) (path : Path) (expected : UInt32) :
    ∃ outcome, Shape files path expected outcome := by
  cases looked : files.metadata path with
  | error source =>
    by_cases gone : source = .notFound
    · subst gone
      exact ⟨_, .missing looked⟩
    · exact ⟨_, .unseen looked gone⟩
  | ok node =>
    cases is : node.isDirectory with
    | false => exact ⟨_, .notADirectory looked is⟩
    | true =>
      have directory : files.isDirectory path := FileSystem.isDirectory_iff.mpr ⟨node, looked, is⟩
      cases listed : files.list path with
      | error source => exact ⟨_, .unlisted directory listed⟩
      | ok names =>
        by_cases has : expected ∈ formatsAt files path
        · exact ⟨_, .fits directory has⟩
        · cases named : largest (formats files path names) with
          | none => exact ⟨_, .notAStore directory listed ((largest_formats_none listed).mp named)⟩
          | some found =>
            exact ⟨_, .unsupported directory has ((largest_formats listed).mp named)⟩

/-- Looking at a directory tells its shape. -/
theorem check_eq_iff {outcome : Except StoreFault Unit} :
    check files path expected = outcome ↔ Shape files path expected outcome := by
  refine ⟨?_, Shape.check_eq⟩
  rintro rfl
  obtain ⟨outcome, shape⟩ := exists_shape files path expected
  rw [shape.check_eq]
  exact shape

section Inversion

variable {source : IoFault}

theorem shape_missing_iff : Shape files path expected (.error (.missing path)) ↔
    files.metadata path = .error .notFound := by
  refine ⟨fun shape => ?_, .missing⟩
  cases shape with
  | missing looked => exact looked

theorem shape_io_iff : Shape files path expected (.error (.io path source)) ↔
    (files.metadata path = .error source ∧ source ≠ .notFound) ∨
      (files.isDirectory path ∧ files.list path = .error source) := by
  constructor
  · intro shape
    cases shape with
    | unseen looked other => exact .inl ⟨looked, other⟩
    | unlisted directory listed => exact .inr ⟨directory, listed⟩
  · rintro (⟨looked, other⟩ | ⟨directory, listed⟩)
    · exact .unseen looked other
    · exact .unlisted directory listed

theorem shape_notADirectory_iff : Shape files path expected (.error (.notADirectory path)) ↔
    ∃ node, files.metadata path = .ok node ∧ node.isDirectory = false := by
  constructor
  · intro shape
    cases shape with
    | notADirectory looked is => exact ⟨_, looked, is⟩
  · rintro ⟨node, looked, is⟩
    exact .notADirectory looked is

theorem shape_notAStore_iff : Shape files path expected (.error (.notAStore path)) ↔
    files.isDirectory path ∧ (∃ names, files.list path = .ok names) ∧
      formatsAt files path = ∅ := by
  constructor
  · intro shape
    cases shape with
    | notAStore directory listed empty => exact ⟨directory, ⟨_, listed⟩, empty⟩
  · rintro ⟨directory, ⟨names, listed⟩, empty⟩
    exact .notAStore directory listed empty

theorem shape_unsupported_iff {asked : UInt32} :
    Shape files path expected (.error (.unsupportedFormat path found asked)) ↔
      files.isDirectory path ∧ asked ∉ formatsAt files path ∧
        IsGreatest (formatsAt files path) found ∧ asked = expected := by
  constructor
  · intro shape
    cases shape with
    | unsupported directory lacks greatest => exact ⟨directory, lacks, greatest, rfl⟩
  · rintro ⟨directory, lacks, greatest, rfl⟩
    exact .unsupported directory lacks greatest

theorem shape_fits_iff : Shape files path expected (.ok ⟨⟩) ↔
    files.isDirectory path ∧ expected ∈ formatsAt files path := by
  constructor
  · intro shape
    cases shape with
    | fits directory has => exact ⟨directory, has⟩
  · rintro ⟨directory, has⟩
    exact .fits directory has

end Inversion

/-- Two file systems that differ at most in the order in which they list the directory at a path. -/
structure Relists (files files' : FileSystem NativeLibrary) (path : Path) : Prop where
  metadata : files'.metadata = files.metadata
  list : (files'.list path).map Multiset.ofList = (files.list path).map Multiset.ofList

section Relisted

variable {files' : FileSystem NativeLibrary} (h : Relists files files' path)

include h

theorem Relists.isDirectory : files'.isDirectory = files.isDirectory := by
  funext p
  rw [FileSystem.isDirectory, FileSystem.isDirectory, h.metadata]

theorem Relists.list_error {source : IoFault} (listed : files.list path = .error source) :
    files'.list path = .error source := by
  have same := h.list
  rw [listed] at same
  cases listed' : files'.list path with
  | error other => simpa [listed', Except.map] using same
  | ok names => simp [listed', Except.map] at same

theorem Relists.list_ok (listed : files.list path = .ok names) :
    ∃ names', files'.list path = .ok names' ∧ names'.Perm names := by
  have same := h.list
  rw [listed] at same
  cases listed' : files'.list path with
  | error source => simp [listed', Except.map] at same
  | ok names' => exact ⟨names', rfl, by simpa [listed', Except.map] using same⟩

theorem Relists.formatsAt_eq : formatsAt files' path = formatsAt files path := by
  cases listed : files.list path with
  | error source => simp [formatsAt, listed, h.list_error listed]
  | ok names =>
    obtain ⟨names', listed', same⟩ := h.list_ok listed
    ext v
    simp only [formatsAt_of_list listed, formatsAt_of_list listed', Set.mem_ofPred_eq, mem_formats,
      same.mem_iff, h.isDirectory]

/-- The order of a listing does not show in the shape. -/
theorem Relists.check_eq : check files' path expected = check files path expected := by
  obtain ⟨outcome, shape⟩ := exists_shape files path expected
  rw [shape.check_eq, check_eq_iff]
  cases shape with
  | missing looked => exact .missing (h.metadata ▸ looked)
  | unseen looked other => exact .unseen (h.metadata ▸ looked) other
  | notADirectory looked is => exact .notADirectory (h.metadata ▸ looked) is
  | unlisted directory listed => exact .unlisted (h.isDirectory ▸ directory) (h.list_error listed)
  | fits directory has => exact .fits (h.isDirectory ▸ directory) (h.formatsAt_eq ▸ has)
  | notAStore directory listed empty =>
    obtain ⟨names', listed', -⟩ := h.list_ok listed
    exact .notAStore (h.isDirectory ▸ directory) listed' (h.formatsAt_eq.trans empty)
  | unsupported directory lacks greatest =>
    exact .unsupported (h.isDirectory ▸ directory) (h.formatsAt_eq ▸ lacks)
      (h.formatsAt_eq ▸ greatest)

end Relisted

end Looking

section Opening

variable {lib : Library} {files : FileSystem NativeLibrary} {path : Path}

def answeredWith (path : Path) : Except String Handle → Except StoreFault Store
  | .ok handle => .ok ⟨path, handle⟩
  | .error message => .error (.engine path message)

theorem openAt_refused {fault : StoreFault}
    (refused : check files path lib.engine.formatVersion = .error fault) :
    openAt lib files path = pure (.error fault) := by
  rw [openAt, refused]

theorem openAt_fits (whole : hasNul path.text = false)
    (fits : check files path lib.engine.formatVersion = .ok ⟨⟩) :
    openAt lib files path = answeredWith path <$> lib.engine.createStore path.text := by
  funext l
  simp only [openAt, fits, whole, Bool.false_eq_true, if_false, bind_apply, map_apply]
  cases (lib.engine.createStore path.text l).1 <;> rfl

/-- A fault that is not the engine's own tells the shape of the directory. -/
theorem openAt_eq_error_iff (whole : hasNul path.text = false) {fault : StoreFault}
    (apart : ∀ message, fault ≠ .engine path message) (l : Ledger) :
    (openAt lib files path l).1 = .error fault ↔
      Shape files path lib.engine.formatVersion (.error fault) := by
  rw [← check_eq_iff]
  cases looked : check files path lib.engine.formatVersion with
  | error other => rw [openAt_refused looked, pure_apply, Except.error.injEq, Except.error.injEq]
  | ok fits =>
    rw [openAt_fits whole looked, map_apply]
    cases (lib.engine.createStore path.text l).1 with
    | ok handle => simp [answeredWith]
    | error message => simpa [answeredWith] using (apart message).symm

end Opening

end Store

def Ledger.SameStores (l l' : Ledger) : Prop :=
  l'.counters.stores = l.counters.stores ∧
    ∀ handle, ⟨.store, handle⟩ ∈ l'.objects.out ↔ ⟨.store, handle⟩ ∈ l.objects.out

theorem Ledger.SameStores.refl (l : Ledger) : l.SameStores l := ⟨rfl, fun _ => Iff.rfl⟩

/-- An engine keeps no store open for a path it refuses. -/
def Engine.RefusesWhole (e : Engine) : Prop :=
  ∀ path l message, (e.createStore path l).1 = .error message →
    l.SameStores (e.createStore path l).2

theorem Tables.refusesWhole (t : Tables) (settings : MemorySettings) :
    (t.engine settings).RefusesWhole := by
  intro path l message refused
  have answer := (Tables.handOut_fst _ _ l).symm.trans refused
  change l.SameStores (Tables.handOut _ _ l).2
  rw [answer]
  exact .refl l

/-- An error object that passes by leaves the stores that are out alone. -/
theorem Native.store_mem_afterFailure (o : Objects) (failure : NativeFailure) (handle : Handle) :
    ⟨.store, handle⟩ ∈ (afterFailure o failure).out ↔ ⟨.store, handle⟩ ∈ o.out := by
  cases failure with
  | noObject => rfl
  | object description =>
    simp [afterFailure, Objects.mem_out, Objects.makeError, Objects.make, Objects.dispose]

theorem NativeFunctions.refusesWhole {P : Pointee → Type} (f : NativeFunctions P) :
    f.engine.RefusesWhole := by
  intro path l message refused
  cases answer : f.store path with
  | ok opened => simp [NativeFunctions.engine, answer, Native.created_ok, Except.map] at refused
  | error failure =>
    have after : (f.engine.createStore path l).2 =
        { l with objects := Native.afterFailure l.objects failure } := by
      simp [NativeFunctions.engine, answer, Native.created_error]
    rw [after]
    exact ⟨rfl, Native.store_mem_afterFailure l.objects failure⟩

/-- When a store does not open none stays open, if the engine keeps none that it refuses. -/
theorem openAt_sameStores {lib : Library} {files : FileSystem NativeLibrary} {path : Path}
    (whole : hasNul path.text = false) (clean : lib.engine.RefusesWhole) {l : Ledger}
    {fault : StoreFault} (refused : (Store.openAt lib files path l).1 = .error fault) :
    l.SameStores (Store.openAt lib files path l).2 := by
  cases looked : Store.check files path lib.engine.formatVersion with
  | error fault =>
    rw [Store.openAt_refused looked]
    exact .refl l
  | ok fits =>
    rw [Store.openAt_fits whole looked] at refused ⊢
    cases answer : (lib.engine.createStore path.text l).1 with
    | ok handle => simp [answer, Store.answeredWith] at refused
    | error message => exact clean path.text l message answer

def Library.Reads (lib : Library) (files : FileSystem NativeLibrary) (path : Path) : Prop :=
  files.isDirectory path ∧ lib.engine.formatVersion ∈ Store.formatsAt files path

/-- A store opens by the shape of its directory: each fault has its one reason, and if there is none
the engine's answer is the outcome. -/
structure OpensByShape (lib : Library) (files : FileSystem NativeLibrary) (path : Path) :
    Prop where
  missing (l : Ledger) : (Store.openAt lib files path l).1 = .error (.missing path) ↔
    files.metadata path = .error .notFound
  io (source : IoFault) (l : Ledger) :
    (Store.openAt lib files path l).1 = .error (.io path source) ↔
      (files.metadata path = .error source ∧ source ≠ .notFound) ∨
        (files.isDirectory path ∧ files.list path = .error source)
  notADirectory (l : Ledger) : (Store.openAt lib files path l).1 = .error (.notADirectory path) ↔
    ∃ node, files.metadata path = .ok node ∧ node.isDirectory = false
  notAStore (l : Ledger) : (Store.openAt lib files path l).1 = .error (.notAStore path) ↔
    files.isDirectory path ∧ (∃ names, files.list path = .ok names) ∧
      Store.formatsAt files path = ∅
  unsupported (found expected : UInt32) (l : Ledger) :
    (Store.openAt lib files path l).1 = .error (.unsupportedFormat path found expected) ↔
      files.isDirectory path ∧ expected ∉ Store.formatsAt files path ∧
        IsGreatest (Store.formatsAt files path) found ∧ expected = lib.engine.formatVersion
  /-- The engine is asked once, and its answer is the outcome. -/
  asked : lib.Reads files path →
    Store.openAt lib files path = Store.answeredWith path <$> lib.engine.createStore path.text
  /-- No engine that reads the format is asked. -/
  unasked : ¬ lib.Reads files path → ∃ fault, ∀ lib' : Library,
    lib'.engine.formatVersion = lib.engine.formatVersion →
      Store.openAt lib' files path = pure (.error fault)
  /-- The order of the listing does not matter. -/
  reordered (files' : FileSystem NativeLibrary) : Store.Relists files files' path →
    Store.openAt lib files' path = Store.openAt lib files path
  /-- An engine in memory or bound to native functions keeps no store open that does not open. -/
  released : (∃ t settings, lib.engine = Tables.engine t settings) ∨
    (∃ (P : Pointee → Type) (f : NativeFunctions P), lib.engine = f.engine) → ∀ l fault,
      (Store.openAt lib files path l).1 = .error fault →
        l.SameStores (Store.openAt lib files path l).2

/-- Whether a store opens, and why not, is told by the shape of its directory. -/
theorem stores_open_by_shape (lib : Library) (files : FileSystem NativeLibrary) (path : Path)
    (whole : hasNul path.text = false) : OpensByShape lib files path where
  missing l := (Store.openAt_eq_error_iff whole (by simp) l).trans Store.shape_missing_iff
  io source l := (Store.openAt_eq_error_iff whole (by simp) l).trans Store.shape_io_iff
  notADirectory l :=
    (Store.openAt_eq_error_iff whole (by simp) l).trans Store.shape_notADirectory_iff
  notAStore l := (Store.openAt_eq_error_iff whole (by simp) l).trans Store.shape_notAStore_iff
  unsupported found expected l :=
    (Store.openAt_eq_error_iff whole (by simp) l).trans Store.shape_unsupported_iff
  asked reads := Store.openAt_fits whole (Store.check_fits reads.1 reads.2)
  unasked := by
    intro apart
    cases looked : Store.check files path lib.engine.formatVersion with
    | error fault => exact ⟨fault, fun lib' same => Store.openAt_refused (same ▸ looked)⟩
    | ok fits => exact absurd (Store.shape_fits_iff.mp (Store.check_eq_iff.mp looked)) apart
  reordered files' h := by rw [Store.openAt, Store.openAt, h.check_eq]
  released := by
    intro known l fault refused
    refine openAt_sameStores whole ?_ refused
    rcases known with ⟨t, settings, is⟩ | ⟨_, f, is⟩ <;> rw [is]
    · exact t.refusesWhole settings
    · exact f.refusesWhole

/-- In a directory with a file `v9` and directories named `v007`, `v4`, `v` and `v4294967296`, the
largest format is 7, which is not the one that is read. -/
theorem leading_zeros_read :
    let path : Path := ⟨"index"⟩
    let directory : Node NativeLibrary := ⟨.directory, ⟨0⟩⟩
    let files : FileSystem NativeLibrary :=
      { metadata := fun p => if p.text = "index/v9" then .ok ⟨.file none, ⟨0⟩⟩ else .ok directory
        list := fun _ => .ok ["v9", "v007", "v4", "v", "v4294967296"] }
    let lib : Library := .ofEngine ((Tables.ofContents ⟨[], []⟩).engine {})
    hasNul path.text = false ∧ OpensByShape lib files path ∧
      (Store.openAt lib files path {}).1 = .error (.unsupportedFormat path 7 5) := by
  intro path directory files lib
  have whole : hasNul path.text = false := by decide
  exact ⟨whole, stores_open_by_shape lib files path whole, by decide +kernel⟩

end CodeIndex
