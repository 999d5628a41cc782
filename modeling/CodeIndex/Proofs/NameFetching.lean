import CodeIndex.Proofs.Binding
/-!
# Fetching a name

A native call writes a name into a buffer as far as there is room, and tells how long the name is.
The loop around it has no bound of its own: it calls until the name fits. A call that writes the
same name each time is made twice at most. The first time tells how much room the name takes, and
what is left of that call in the buffer does not get into the name.
-/
namespace CodeIndex

namespace NameCall

/-- A call as the loop makes it: the buffer it passes, and the size it tells. -/
structure Request where
  buffer : Bytes
  size : Nat

/-- The requests that the loop makes from a buffer on, and the name it ends with. -/
inductive Fetches (call : NameCall) : Bytes → List Request → Bytes → Prop
  | fits {buffer filled : Bytes} {needed : Nat} :
      call buffer buffer.length = (filled, needed) → needed < buffer.length →
      Fetches call buffer [⟨buffer, buffer.length⟩] (filled.take needed)
  | grows {buffer filled name : Bytes} {needed : Nat} {requests : List Request} :
      call buffer buffer.length = (filled, needed) → buffer.length ≤ needed →
      Fetches call (resize filled (needed + 1)) requests name →
      Fetches call buffer (⟨buffer, buffer.length⟩ :: requests) name

/-- A call that writes a name: all of it or what leaves room for the zero behind it in the size that
it is told, and each time the same name. What stands behind the zero is not said. -/
structure Writes (name : Bytes) (call : NameCall) : Prop where
  front : ∀ buffer size, 0 < size → size ≤ buffer.length →
    name.take (size - 1) ++ [0] <+: (call buffer size).1
  tells : ∀ buffer size, (call buffer size).2 = name.length

section Loop

variable {call : NameCall} {buffer filled name name' : Bytes} {needed : Nat}
  {requests requests' : List Request}

theorem fetch_eq (call : NameCall) (buffer : Bytes) : fetch call buffer =
    match turn call buffer with
    | .inl larger => fetch call larger
    | .inr name => name := by
  rw [fetch, repeatM_eq_of_monadTail]
  cases h : turn call buffer <;> simp only [repeatM.body, h] <;> rfl

theorem turn_fits (called : call buffer buffer.length = (filled, needed))
    (room : needed < buffer.length) : turn call buffer = .inr (filled.take needed) := by
  rw [turn, called]
  exact if_pos room

theorem turn_grows (called : call buffer buffer.length = (filled, needed))
    (short : buffer.length ≤ needed) : turn call buffer = .inl (resize filled (needed + 1)) := by
  rw [turn, called]
  exact if_neg (Nat.not_lt.mpr short)

/-- A loop that ends gives the name it ends with. -/
theorem Fetches.fetch_eq (fetches : Fetches call buffer requests name) :
    fetch call buffer = name := by
  induction fetches with
  | fits called room => rw [NameCall.fetch_eq, turn_fits called room]
  | grows called short _ ih =>
    rw [NameCall.fetch_eq, turn_grows called short]
    exact ih

/-- From a buffer on the loop goes one way. -/
theorem Fetches.unique (fetches : Fetches call buffer requests name)
    (fetches' : Fetches call buffer requests' name') : requests' = requests ∧ name' = name := by
  induction fetches generalizing requests' name' with
  | fits called room =>
    cases fetches' with
    | fits called' _ =>
      cases called.symm.trans called'
      exact ⟨rfl, rfl⟩
    | grows called' short _ =>
      cases called.symm.trans called'
      omega
  | grows called short _ ih =>
    cases fetches' with
    | fits called' room =>
      cases called.symm.trans called'
      omega
    | grows called' _ further =>
      cases called.symm.trans called'
      obtain ⟨rfl, rfl⟩ := ih further
      exact ⟨rfl, rfl⟩

/-- Whatever the call answers, it is never told more than there is. -/
theorem Fetches.size_le (fetches : Fetches call buffer requests name) :
    ∀ request ∈ requests, request.size ≤ request.buffer.length := by
  induction fetches with
  | fits => exact List.forall_mem_singleton.mpr (Nat.le_refl _)
  | grows _ _ _ ih => exact List.forall_mem_cons.mpr ⟨Nat.le_refl _, ih⟩

theorem length_resize (buffer : Bytes) (size : Nat) : (resize buffer size).length = size := by
  rw [resize, List.length_append, List.length_take, List.length_replicate]
  omega

end Loop

section Writing

variable {call : NameCall} {name buffer : Bytes}

/-- Where a name fits, it stands at the front of what the call left. -/
theorem Writes.take_filled (writes : Writes name call) (room : name.length < buffer.length) :
    (call buffer buffer.length).1.take name.length = name := by
  have front := writes.front buffer buffer.length (Nat.zero_lt_of_lt room) (Nat.le_refl _)
  rw [List.take_of_length_le (Nat.le_sub_one_of_lt room)] at front
  exact (List.prefix_iff_eq_take.mp ((List.prefix_append name [0]).trans front)).symm

theorem Writes.called (writes : Writes name call) (buffer : Bytes) :
    call buffer buffer.length = ((call buffer buffer.length).1, name.length) :=
  Prod.ext rfl (writes.tells buffer buffer.length)

/-- With a buffer that is long enough one request does. -/
theorem Writes.fetches_fits (writes : Writes name call) (room : name.length < buffer.length) :
    Fetches call buffer [⟨buffer, buffer.length⟩] name := by
  have fetches := Fetches.fits (writes.called buffer) room
  rwa [writes.take_filled room] at fetches

/-- With any other it takes two: the second buffer is as long as the name and the zero. -/
theorem Writes.fetches_grows (writes : Writes name call) (short : buffer.length ≤ name.length) :
    ∃ grown, grown.length = name.length + 1 ∧
      Fetches call buffer [⟨buffer, buffer.length⟩, ⟨grown, grown.length⟩] name := by
  refine ⟨resize (call buffer buffer.length).1 (name.length + 1), length_resize _ _, ?_⟩
  refine .grows (writes.called buffer) short (writes.fetches_fits ?_)
  rw [length_resize]
  exact Nat.lt_succ_self _

/-- The sizes that a call is told when it writes a name of some length. -/
def sizesFor (length : Nat) : List Nat := if length < 256 then [256] else [256, length + 1]

theorem Writes.fetches (writes : Writes name call) :
    ∃ requests, Fetches call firstBuffer requests name ∧
      requests.map Request.size = sizesFor name.length := by
  have first : firstBuffer.length = 256 := List.length_replicate
  rw [sizesFor]
  by_cases room : name.length < 256
  · rw [if_pos room]
    exact ⟨_, writes.fetches_fits (first ▸ room), congrArg (fun size => [size]) first⟩
  · rw [if_neg room]
    obtain ⟨grown, long, fetches⟩ := writes.fetches_grows (first ▸ Nat.not_lt.mp room)
    exact ⟨_, fetches, by rw [List.map_cons, List.map_singleton, first, long]⟩

theorem Writes.whole_eq (writes : Writes name call) : call.whole = name := by
  obtain ⟨requests, fetches, _⟩ := writes.fetches
  rw [whole, fetches.fetch_eq]

theorem writes_writing (name : Bytes) : Writes name (writing name) where
  front buffer size some fits := by
    have cut : (name.take (size - 1) ++ [0]).take size = name.take (size - 1) ++ [0] := by
      refine List.take_of_length_le ?_
      rw [List.length_append, List.length_take, List.length_singleton]
      omega
    rw [writing, cut]
    exact List.prefix_append _ _
  tells _ _ := rfl

theorem whole_writing (name : Bytes) : (writing name).whole = name := (writes_writing name).whole_eq

end Writing

/-- What the loop comes to with a call that writes a name. -/
structure FetchedWhole (name : Bytes) (call : NameCall) (answer : Bytes) : Prop where
  /-- The name and nothing else: no octet of it is missing, and none is behind it. -/
  answer : answer = name
  ends : ∃ requests, Fetches call firstBuffer requests name
  /-- It ends in no other way: after two requests at most, and after one if the name and its zero
  have room in the first buffer. -/
  requests : ∀ requests result, Fetches call firstBuffer requests result →
    result = name ∧ requests.length ≤ 2 ∧ (requests.length = 1 ↔ name.length < 256) ∧
      requests.map Request.size = sizesFor name.length ∧
      ∀ request ∈ requests, request.size ≤ request.buffer.length

theorem length_sizesFor (length : Nat) : (sizesFor length).length ≤ 2 ∧
    ((sizesFor length).length = 1 ↔ length < 256) := by
  rw [sizesFor]
  split
  · rename_i room
    exact ⟨Nat.le_succ 1, iff_of_true rfl room⟩
  · rename_i short
    exact ⟨Nat.le_refl 2, iff_of_false (Nat.succ_ne_self 1) short⟩

end NameCall

open NameCall in
/-- A name of any length and with any octets is fetched whole, in two requests at most, from every
native library whose call writes it. -/
theorem names_fetched_whole {P : Pointee → Type} (f : NativeFunctions P) (path : String)
    (name : Bytes) (writes : Writes name (f.unitNameFor path)) :
    FetchedWhole name (f.unitNameFor path) (f.engine.unitNameFor path) := by
  obtain ⟨requests, fetches, sizes⟩ := writes.fetches
  refine ⟨writes.whole_eq, ⟨requests, fetches⟩, fun requests' result fetches' => ?_⟩
  obtain ⟨rfl, rfl⟩ := fetches.unique fetches'
  have count : requests'.length = (sizesFor result.length).length := by
    rw [← sizes, List.length_map]
  have counted := length_sizesFor result.length
  exact ⟨rfl, by omega, by omega, sizes, fetches'.size_le⟩

/-- A library that derives one name for all files, as long as the first buffer and full of zeros. -/
def NativeLibrary.zeroNamed : NativeLibrary := { derivedName := List.replicate 256 0 }

open NameCall in
theorem names_fetched_whole_zeroNamed :
    let f := NativeLibrary.zeroNamed.functions
    Writes (List.replicate 256 0) (f.unitNameFor "a.o") ∧
    FetchedWhole (List.replicate 256 0) (f.unitNameFor "a.o") (f.engine.unitNameFor "a.o") ∧
    ∃ requests, Fetches (f.unitNameFor "a.o") firstBuffer requests (List.replicate 256 0) ∧
      requests.map Request.size = [256, 257] := by
  have writes : Writes (List.replicate 256 0)
      (NativeLibrary.zeroNamed.functions.unitNameFor "a.o") := writes_writing _
  have fetched := names_fetched_whole NativeLibrary.zeroNamed.functions "a.o" _ writes
  obtain ⟨requests, fetches⟩ := fetched.ends
  refine ⟨writes, fetched, requests, fetches, ?_⟩
  rw [(fetched.requests _ _ fetches).2.2.2.1, List.length_replicate]
  rfl

end CodeIndex
