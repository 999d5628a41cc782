import CodeIndex.Proofs.TextReading
import CodeIndex.Report.OfUnits
/-!
# Paths as octets

A system keeps a path as octets and joins paths octet by octet; such a path need not be text, and
one that is not cannot be written. The paths of an index are texts: what the index gives as octets
is read as text first, faults replaced. Joining them as texts is joining their octets, so a path
that was joined is text again, and every path of a report can be written.
-/
namespace CodeIndex

namespace Utf8

theorem encode_append (a b : String) : encode (a ++ b) = encode a ++ encode b := by
  rw [encode, encode, encode, String.toList_append, List.flatMap_append]

/-- The octet of a slash stands for a slash and nothing else. -/
theorem slash_mem_utf8EncodeChar (c : Char) : 0x2F ∈ String.utf8EncodeChar c ↔ c = '/' := by
  constructor
  · intro member
    have back : Char.ofNat c.toNat = c := Char.ofNat_toNat c
    have value : c.val.toNat = c.toNat := rfl
    have wide {n : Nat} (high : 128 ≤ n) (small : n < 256) : 0x2F ≠ UInt8.ofNat n := by
      intro same
      have octets := congrArg UInt8.toNat same
      rw [toNat_ofNat small] at octets
      simp at octets
      omega
    rw [String.utf8EncodeChar, value] at member
    rw [← back]
    generalize c.toNat = v at member
    split at member
    · have octets := congrArg UInt8.toNat (List.mem_singleton.mp member)
      rw [toNat_ofNat (by omega)] at octets
      rw [← octets]
      rfl
    · exfalso
      split at member
      · simp only [List.mem_cons, List.not_mem_nil, or_false] at member
        rcases member with same | same <;> exact wide (by omega) (by omega) same
      · split at member
        · simp only [List.mem_cons, List.not_mem_nil, or_false] at member
          rcases member with same | same | same <;> exact wide (by omega) (by omega) same
        · simp only [List.mem_cons, List.not_mem_nil, or_false] at member
          rcases member with same | same | same | same <;> exact wide (by omega) (by omega) same
  · rintro rfl
    decide

theorem utf8EncodeChar_ne_nil (c : Char) : String.utf8EncodeChar c ≠ [] := by
  obtain ⟨b, more, encoded, -⟩ := head_utf8EncodeChar c []
  rw [encoded]
  nofun

/-- A text begins with a slash when its octets do. -/
theorem head?_encode (text : String) :
    (encode text).head? = some 0x2F ↔ text.toList.head? = some '/' := by
  rw [encode]
  cases text.toList with
  | nil => simp
  | cons c rest =>
    obtain ⟨b, more, encoded, -⟩ := head_utf8EncodeChar c []
    have slash := slash_mem_utf8EncodeChar c
    rw [encoded] at slash
    rw [List.flatMap_cons, encoded, List.cons_append, List.head?_cons, List.head?_cons,
      Option.some.injEq, Option.some.injEq]
    constructor
    · intro same
      exact slash.mp (by simp [same])
    · rintro rfl
      have single : String.utf8EncodeChar '/' = [0x2F] := by decide
      rw [single] at encoded
      exact (List.cons.inj encoded).1.symm

/-- A text ends with a slash when its octets do. -/
theorem getLast?_encode (text : String) :
    (encode text).getLast? = some 0x2F ↔ text.toList.getLast? = some '/' := by
  rw [encode]
  rcases List.eq_nil_or_concat text.toList with empty | ⟨front, c, ends⟩
  · simp [empty]
  · obtain ⟨b, last⟩ := Option.ne_none_iff_exists'.mp
      (mt List.getLast?_eq_none_iff.mp (utf8EncodeChar_ne_nil c))
    rw [ends, List.concat_eq_append, List.flatMap_append, List.flatMap_singleton,
      List.getLast?_append, last, List.getLast?_append, List.getLast?_singleton, Option.some_or,
      Option.some_or, Option.some.injEq, Option.some.injEq, ← slash_mem_utf8EncodeChar]
    constructor
    · rintro rfl
      exact List.mem_of_getLast? last
    · intro member
      have single : String.utf8EncodeChar '/' = [0x2F] := by decide
      rw [(slash_mem_utf8EncodeChar c).mp member, single] at last
      simpa using last.symm

theorem encode_eq_nil (text : String) : encode text = [] ↔ text = "" := by
  rw [← encode_inj]
  rfl

end Utf8

def Path.octets (p : Path) : Bytes := Utf8.encode p.text

/-- Joins paths octet by octet: an absolute one stands for itself, and between others there is one
slash. -/
def joinOctets (p q : Bytes) : Bytes :=
  if q.head? = some 0x2F ∨ p = [] then q
  else if p.getLast? = some 0x2F then p ++ q
  else p ++ 0x2F :: q

theorem Path.octets_join (p q : Path) : (p.join q).octets = joinOctets p.octets q.octets := by
  have absolute : q.isAbsolute = true ↔ q.octets.head? = some 0x2F := by
    rw [Path.isAbsolute, beq_iff_eq, Path.octets, Utf8.head?_encode]
  have empty : p.text.isEmpty = true ↔ p.octets = [] := by
    rw [String.isEmpty_iff, Path.octets, Utf8.encode_eq_nil]
  have closed : (p.text.toList.getLast? == some '/') = true ↔ p.octets.getLast? = some 0x2F := by
    rw [beq_iff_eq, Path.octets, Utf8.getLast?_encode]
  have slash : Utf8.encode "/" = [0x2F] := by decide
  unfold Path.join joinOctets
  simp only [Bool.or_eq_true, absolute, empty, closed]
  split
  · rfl
  · split
    · exact Utf8.encode_append _ _
    · rw [Path.octets, Utf8.encode_append, Utf8.encode_append, slash, List.append_assoc]
      rfl

/-- The inputs of a unit as they are met, joined octet by octet. -/
def OpenUnit.metOctets (u : OpenUnit) (dependencies : List Dependency) : List Bytes :=
  (u.mainInput.toList ++ dependencies.filterMap inputOf).map fun input =>
    joinOctets (Utf8.encode (Utf8.lossy u.reader.workingDirectory)) input.octets

theorem OpenUnit.octets_metInputs (u : OpenUnit) (dependencies : List Dependency) :
    (u.metInputs dependencies).map Path.octets = u.metOctets dependencies := by
  rw [OpenUnit.metInputs, OpenUnit.metOctets, List.map_map]
  refine List.map_congr_left fun input _ => ?_
  exact Path.octets_join _ input

section Writing

open Report

/-- Why an entry is not written: a path that is no text, or a time before the epoch. -/
inductive EntryFault where
  | path (fault : Utf8.Fault)
  | time (fault : Instant.WritingFault)

/-- The octets of a path as a written text, if they are text. -/
def writePath (octets : Bytes) : Except EntryFault Json :=
  ((Utf8.decode octets).map Json.string).mapError .path

theorem writePath_octets (p : Path) : writePath p.octets = .ok (.string p.text) := by
  rw [writePath, Path.octets, Utf8.decode_encode]
  rfl

def writePaths (paths : List Path) : Except EntryFault Json :=
  return .array (← paths.mapM fun p => writePath p.octets)

theorem writePaths_eq (paths : List Path) : writePaths paths = .ok (Staleness.pathsJson paths) := by
  have each : (fun p : Path => writePath p.octets) = fun p => pure (Json.string p.text) :=
    funext writePath_octets
  rw [writePaths, each, List.mapM_pure]
  rfl

/-- A unit with its paths written from their octets. -/
def UnitInfo.write (u : UnitInfo) : Except EntryFault Json := do
  let mainFile ← match u.mainFile with
    | some file => writePath (Path.mk file).octets
    | none => pure .null
  let outputFile ← writePath (Path.mk u.outputFile).octets
  let modified ← u.modified.toJson.mapError .time
  return .object [("name", .string u.name), ("main_file", mainFile), ("output_file", outputFile),
    ("module_name", .string u.moduleName), ("target", .string u.target),
    ("is_system", .bool u.isSystem), ("modification_time", modified)]

/-- No path keeps a unit from being written. -/
theorem UnitInfo.write_eq (u : UnitInfo) : u.write = u.toJson.mapError .time := by
  obtain ⟨name, mainFile, outputFile, moduleName, target, isSystem, modified⟩ := u
  rw [UnitInfo.write, UnitInfo.toJson, writePath_octets]
  cases mainFile with
  | none => cases modified.toJson <;> rfl
  | some file =>
    dsimp only
    rw [writePath_octets]
    cases modified.toJson <;> rfl

def IncludeInfo.write (i : IncludeInfo) : Except EntryFault Json := do
  let source ← writePath (Path.mk i.source).octets
  let target ← writePath (Path.mk i.target).octets
  return .object [("source_path", source), ("line", .number i.line), ("target_path", target)]

def Report.UnitIncludes.write (u : UnitIncludes) : Except EntryFault Json :=
  return .object [("unit", .string u.unit), ("includes", .array (← u.includes.mapM (·.write)))]

theorem Report.UnitIncludes.write_eq (u : UnitIncludes) : u.write = .ok u.toJson := by
  have each : IncludeInfo.write = fun i => pure i.toJson := by
    funext i
    rw [IncludeInfo.write, writePath_octets, writePath_octets]
    rfl
  rw [UnitIncludes.write, each, List.mapM_pure]
  rfl

def Staleness.write : Staleness → Except EntryFault (List (String × Json))
  | .upToDate => return [("state", .string "up_to_date")]
  | .stale newer => return [("state", .string "stale"), ("newer", ← writePaths newer)]
  | .missing paths => return [("state", .string "missing"), ("paths", ← writePaths paths)]

theorem Staleness.write_eq (s : Staleness) : s.write = .ok s.members := by
  cases s with
  | upToDate => rfl
  | stale newer =>
    rw [Staleness.write, writePaths_eq]
    rfl
  | missing paths =>
    rw [Staleness.write, writePaths_eq]
    rfl

def Report.UnitStaleness.write (u : UnitStaleness) : Except EntryFault Json :=
  return .object (("unit", .string u.unit) :: (← u.staleness.write))

theorem Report.UnitStaleness.write_eq (u : UnitStaleness) : u.write = .ok u.toJson := by
  rw [UnitStaleness.write, Staleness.write_eq]
  rfl

end Writing

end CodeIndex
