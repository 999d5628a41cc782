import CodeIndex.Proofs.Custody
import Mathlib.Data.List.Nodup
/-!
# Native objects

The engine bound to native functions makes objects and gives them back. For every run of every
client, the stores, units and records not given back are exactly those behind the values held, at
each moment of the run; nothing is given back twice; and an error object is given back by the call
that found it. Nothing is assumed of what the functions answer, nor of how their enumerations take
a stop.
-/
namespace CodeIndex

namespace Objects

/-- Every object was made once, and given back at most once. -/
structure Tidy (o : Objects) : Prop where
  made_nodup : o.made.Nodup
  handle_le : ∀ r ∈ o.made, r.handle ≤ o.made.length
  disposed_nodup : o.disposed.Nodup
  disposed_made : o.disposed ⊆ o.made

theorem mem_out {o : Objects} {r : Resource} : r ∈ o.out ↔ r ∈ o.made ∧ r ∉ o.disposed := by
  simp [out]

theorem Tidy.empty : Tidy {} where
  made_nodup := .nil
  handle_le := by simp
  disposed_nodup := .nil
  disposed_made := by simp

variable {o : Objects}

/-- The next handle is a new one. -/
theorem Tidy.next_not_made (tidy : o.Tidy) (kind : ResourceKind) : ⟨kind, o.next⟩ ∉ o.made := by
  intro made
  exact Nat.not_succ_le_self _ (tidy.handle_le _ made)

theorem Tidy.make (tidy : o.Tidy) (kind : ResourceKind) : (o.make kind).Tidy where
  made_nodup := tidy.made_nodup.cons (tidy.next_not_made kind)
  handle_le := by
    intro r made
    rcases List.mem_cons.mp made with new | old
    · simp [new, Objects.make, next]
    · exact Nat.le_succ_of_le (tidy.handle_le r old)
  disposed_nodup := tidy.disposed_nodup
  disposed_made := fun _ disposed => List.mem_cons_of_mem _ (tidy.disposed_made disposed)

/-- What was just made is out, in front of the rest. -/
theorem Tidy.out_make (tidy : o.Tidy) (kind : ResourceKind) :
    (o.make kind).out = ⟨kind, o.next⟩ :: o.out := by
  have new : ⟨kind, o.next⟩ ∉ o.disposed := fun disposed =>
    tidy.next_not_made kind (tidy.disposed_made disposed)
  rw [out, Objects.make, List.filter_cons_of_pos (by simpa using new)]
  rfl

theorem Tidy.dispose (tidy : o.Tidy) {r : Resource} (isOut : r ∈ o.out) : (o.dispose r).Tidy where
  made_nodup := tidy.made_nodup
  handle_le := tidy.handle_le
  disposed_nodup := tidy.disposed_nodup.cons (mem_out.mp isOut).2
  disposed_made := by
    intro r' disposed
    rcases List.mem_cons.mp disposed with new | old
    · rw [new]
      exact (mem_out.mp isOut).1
    · exact tidy.disposed_made old

/-- What is given back is no longer out; the rest is. -/
theorem Tidy.out_dispose (tidy : o.Tidy) {r : Resource} (isOut : r ∈ o.out) :
    o.out.Perm (r :: (o.dispose r).out) := by
  have nodup : o.out.Nodup := tidy.made_nodup.filter _
  have rest : (o.dispose r).out = o.out.erase r := by
    rw [nodup.erase_eq_filter, out, out, List.filter_filter]
    apply List.filter_congr
    intro r' _
    simp [Objects.dispose, bne, beq_eq_decide]
  rw [rest]
  exact List.perm_cons_erase isOut

/-- An object that is made and given back at once leaves nothing out. -/
theorem Tidy.out_passing (tidy : o.Tidy) (kind : ResourceKind) :
    ((o.make kind).dispose ⟨kind, o.next⟩).Tidy ∧
      ((o.make kind).dispose ⟨kind, o.next⟩).out.Perm o.out := by
  have made := tidy.make kind
  have isOut : ⟨kind, o.next⟩ ∈ (o.make kind).out := by
    rw [tidy.out_make]
    exact List.mem_cons_self
  refine ⟨made.dispose isOut, ?_⟩
  have front := made.out_dispose isOut
  rw [tidy.out_make] at front
  exact (List.perm_cons _).mp front.symm

end Objects

def NativeFailure.report : NativeFailure → String
  | .noObject => Native.unknownError
  | .object none => Native.unknownError
  | .object (some octets) => Utf8.lossy octets.beforeNul

namespace Native

/-- The objects after a call failed and its error object, if it left one, was read and given
back. -/
def afterFailure (o : Objects) : NativeFailure → Objects
  | .noObject => o
  | .object description => (o.makeError description).dispose ⟨.error, o.next⟩

/-- A call that makes something makes the next object. -/
theorem created_ok {α : Type} (kind : ResourceKind) (seen : α) (l : Ledger) :
    created kind (.ok seen) l =
      (.ok (l.objects.next, seen), { l with objects := l.objects.make kind }) := rfl

/-- The error object a failed call leaves is read and given back, and what it says is reported. -/
theorem takeError_leaveError (failure : NativeFailure) (l : Ledger) :
    (leaveError failure >>= takeError) l =
      (failure.report, { l with objects := afterFailure l.objects failure }) := by
  cases failure with
  | noObject => rfl
  | object description =>
    have told : (l.objects.makeError description).description l.objects.next = description := by
      simp [Objects.description, Objects.makeError]
    simp only [leaveError, takeError, dispose, bind_apply, get_apply, pure_apply,
      Access.keep_apply, told]
    cases description <;> rfl

theorem created_error {α : Type} (kind : ResourceKind) (failure : NativeFailure) (l : Ledger) :
    created (α := α) kind (.error failure) l =
      (.error failure.report, { l with objects := afterFailure l.objects failure }) := by
  have passed : created (α := α) kind (.error failure) l =
      (.error <$> (leaveError failure >>= takeError) : Access _) l := rfl
  rw [passed, map_apply, takeError_leaveError]

theorem timed_error (failure : NativeFailure) (l : Ledger) :
    timed (.error failure) l =
      (.error failure.report, { l with objects := afterFailure l.objects failure }) := by
  have passed : timed (.error failure) l =
      (.error <$> (leaveError failure >>= takeError) : Access _) l := rfl
  rw [passed, map_apply, takeError_leaveError]

/-- A call that makes something answers with what was made, or with the report of its failure. -/
theorem created_snd {α : Type} (kind : ResourceKind) (answer : Except NativeFailure α)
    (l : Ledger) : (created kind answer l).1.map Prod.snd =
      answer.mapError NativeFailure.report := by
  cases answer with
  | error failure =>
    rw [created_error]
    rfl
  | ok seen => rfl

theorem timed_fst (answer : Except NativeFailure Timestamp) (l : Ledger) :
    (timed answer l).1 = answer.mapError NativeFailure.report := by
  cases answer with
  | error failure =>
    rw [timed_error]
    rfl
  | ok time => rfl

end Native

/-- The account of an engine bound to native functions: its objects are in order, those out are the
ones in custody, and it counts nothing itself. -/
def Owned : Account := fun l held _ =>
  l.objects.Tidy ∧ l.objects.out.Perm held ∧ l.counters = {}

/-- A failed call leaves out what was out. -/
theorem Owned.afterFailure {l : Ledger} {held : List Resource} {most : Nat}
    (account : Owned l held most) (failure : NativeFailure) :
    Owned { l with objects := Native.afterFailure l.objects failure } held most := by
  obtain ⟨tidy, same, counters⟩ := account
  cases failure with
  | noObject => exact ⟨tidy, same, counters⟩
  | object description =>
    have passing := tidy.out_passing .error
    exact ⟨⟨passing.1.made_nodup, passing.1.handle_le, passing.1.disposed_nodup,
      passing.1.disposed_made⟩, passing.2.trans same, counters⟩

/-- A call that makes something hands out what it made, and one that fails hands out nothing. -/
theorem gives_created {α : Type} (kind : ResourceKind) (answer : Except NativeFailure α) :
    Gives Owned (openedBy fun p => ⟨kind, p.1⟩) (Native.created kind answer) := by
  intro l held most account seen
  cases answer with
  | error failure =>
    rw [Native.created_error]
    exact account.afterFailure failure
  | ok made =>
    obtain ⟨tidy, same, counters⟩ := account
    rw [Native.created_ok]
    refine ⟨tidy.make kind, ?_, counters⟩
    rw [tidy.out_make]
    exact same.cons _

theorem gives_timed (answer : Except NativeFailure Timestamp) :
    Gives Owned (fun _ => none) (Native.timed answer) := by
  intro l held most account seen
  cases answer with
  | error failure =>
    rw [Native.timed_error]
    exact account.afterFailure failure
  | ok time => exact account

/-- What is given back was out, and nothing else comes back with it. -/
theorem Owned.dispose {l : Ledger} {r : Resource} {held : List Resource} {most : Nat}
    (account : Owned l (r :: held) most) :
    Owned { l with objects := l.objects.dispose r } held most := by
  obtain ⟨tidy, same, counters⟩ := account
  have isOut : r ∈ l.objects.out := same.mem_iff.mpr List.mem_cons_self
  have front := tidy.out_dispose isOut
  exact ⟨tidy.dispose isOut, (List.perm_cons r).mp (front.symm.trans same), counters⟩

/-- The engine bound to native functions makes an object for what it hands out and gives back the
object of what it gets back. -/
theorem NativeFunctions.custody {P : Pointee → Type} (f : NativeFunctions P) :
    Custody f.engine Owned where
  reorder := fun account same => ⟨account.1, account.2.1.trans same, account.2.2⟩
  lend := fun account => account
  createStore path := (gives_created .store (f.store path)).bind fun outcome _ => by
    cases outcome <;> exact ⟨rfl, rfl⟩
  createUnit name := gives_created .unit (f.openUnit name)
  createRecord name := gives_created .record (f.openRecord name)
  unitTime name := gives_timed (f.unitTime name)
  dispose := by
    intro l held most v account seen
    cases v <;> exact account.dispose

/-- At a moment the objects out are those behind the values held. Each object was made once and
given back at most once, and each error object was given back. -/
structure OwnedMoment (m : Moment) : Prop where
  out : m.ledger.objects.out.Perm m.resources
  made_once : m.ledger.objects.made.Nodup
  disposed_once : m.ledger.objects.disposed.Nodup
  disposed_made : m.ledger.objects.disposed ⊆ m.ledger.objects.made
  errors : ∀ r ∈ m.ledger.objects.made, r.kind = .error → m.ledger.objects.disposed.count r = 1

theorem Value.kind_ne_error (v : Value) : v.resource.kind ≠ .error := by
  cases v <;> simp [Value.resource]

theorem Owned.moment {m : Moment} {most : Nat} (account : Owned m.ledger m.resources most) :
    OwnedMoment m := by
  obtain ⟨tidy, same, _⟩ := account
  refine ⟨same, tidy.made_nodup, tidy.disposed_nodup, tidy.disposed_made, ?_⟩
  intro r made isError
  have disposed : r ∈ m.ledger.objects.disposed := by
    by_contra still
    have isHeld : r ∈ m.resources := same.mem_iff.mp (Objects.mem_out.mpr ⟨made, still⟩)
    obtain ⟨v, _, behind⟩ := List.mem_map.mp isHeld
    exact v.kind_ne_error (behind ▸ isError)
  exact List.count_eq_one_of_mem tidy.disposed_nodup disposed

section Reports

variable {P : Pointee → Type} {f : NativeFunctions P} {failure : NativeFailure} {name : String}
variable (l : Ledger)

theorem openAt_failed {path : Path} (at? : Option Path) (concurrentReads : Bool)
    {files : FileSystem NativeLibrary} (shape : Store.check files path f.formatVersion = .ok ⟨⟩)
    (noNul : hasNul path.text = false) (fails : f.store path.text = .error failure) :
    (Store.openAt ⟨f.engine, at?, concurrentReads⟩ files path l).1 =
      .error (.engine path failure.report) := by
  have created : (f.engine.createStore path.text l).1 = .error failure.report := by
    simp [NativeFunctions.engine, fails, Native.created_error, Except.map]
  have shape' : Store.check files path f.engine.formatVersion = .ok ⟨⟩ := shape
  simp [Store.openAt, shape', noNul, created]

theorem openUnit_failed (noNul : hasNul name = false) (fails : f.unit name = .error failure) :
    (f.engine.openUnit name l).1 = .error (.unitOpen name failure.report) := by
  have created : (f.engine.createUnit name l).1 = .error failure.report := by
    simp [NativeFunctions.engine, NativeFunctions.openUnit, fails, Except.map, Native.created_error]
  simp [Engine.openUnit, noNul, created]

theorem openRecord_failed (file : Option Path) (noNul : hasNul name = false)
    (fails : f.record name = .error failure) :
    (f.engine.openRecord name file l).1 = .error (.recordOpen name failure.report) := by
  have created : (f.engine.createRecord name l).1 = .error failure.report := by
    simp [NativeFunctions.engine, NativeFunctions.openRecord, fails, Except.map,
      Native.created_error]
  simp [Engine.openRecord, noNul, created]

theorem unitInstant_failed (noNul : hasNul name = false)
    (fails : f.unitTime name = .error failure) :
    (f.engine.unitInstant name l).1 = .error (.engine failure.report) := by
  have timed : (f.engine.unitTime name l).1 = .error failure.report := by
    simp [NativeFunctions.engine, fails, Native.timed_error]
  simp [Engine.unitInstant, noNul, timed]

/-- A lookup by output file swallows what goes wrong with the unit it finds. -/
theorem unitForOutput_failed {path : Path} (noNul : hasNul path.text = false)
    (named : Utf8.decode (f.unitNameFor path.text).whole = .ok name)
    (fails : f.unitTime name = .error failure) : (f.engine.unitForOutput path l).1 = .ok none := by
  have instant : ∃ fault, (f.engine.unitInstant name l).1 = .error fault := by
    cases hn : hasNul name with
    | true => exact ⟨_, by simp [Engine.unitInstant, hn]; rfl⟩
    | false => exact ⟨_, unitInstant_failed l hn fails⟩
  obtain ⟨fault, failed⟩ := instant
  have named' : Utf8.decode (f.engine.unitNameFor path.text) = .ok name := named
  simp only [Engine.unitForOutput, noNul]
  by_cases nothing : (f.engine.unitNameFor path.text).isEmpty = true
  · simp [nothing]
  · simp [nothing, named', failed]

end Reports

/-- What the operations of the access layer report when a native call fails: what the error object
says, or that the error is unknown. -/
structure Reports {P : Pointee → Type} (library : Library) (f : NativeFunctions P) (l : Ledger) :
    Prop where
  store : ∀ files path failure, Store.check files path f.formatVersion = .ok ⟨⟩ →
    hasNul path.text = false → f.store path.text = .error failure →
      (Store.openAt library files path l).1 = .error (.engine path failure.report)
  unit : ∀ name failure, hasNul name = false → f.unit name = .error failure →
    (library.engine.openUnit name l).1 = .error (.unitOpen name failure.report)
  record : ∀ name file failure, hasNul name = false → f.record name = .error failure →
    (library.engine.openRecord name file l).1 = .error (.recordOpen name failure.report)
  time : ∀ name failure, hasNul name = false → f.unitTime name = .error failure →
    (library.engine.unitInstant name l).1 = .error (.engine failure.report)
  lookup : ∀ path name failure, hasNul path.text = false →
    Utf8.decode (f.unitNameFor path.text).whole = .ok name → f.unitTime name = .error failure →
      (library.engine.unitForOutput path l).1 = .ok none

/-- A client of an engine bound to native functions whose objects are owned: at every moment up to
now, also after a call that fails, whose report is what the library had to say, and none is out once
everything was dropped. -/
structure OwnedRun {P : Pointee → Type} (f : NativeFunctions P) (c : Client) : Prop where
  moments : ∀ m earlier, m :: earlier <:+ c.journal → OwnedMoment m
  now : OwnedMoment c.now
  reports : Reports c.library f c.ledger
  failures : ∀ call : Call, (call.run c).1.fault?.isSome →
    (call.run c).2.holdings = call.remaining c.holdings ∧ OwnedMoment (call.run c).2.now
  closing : (Client.dropEverything c).2.holdings = [] ∧
    (Client.dropEverything c).2.ledger.objects.out = []

/-- Every run of every client of an engine bound to native functions, whatever they answer and
whether or not enumerations end when told to stop: the objects not given back are those behind the
values held, and error objects are given back once by the call that found them. -/
theorem native_objects_owned {P : Pointee → Type} (f : NativeFunctions P) (at? : Option Path)
    (concurrentReads : Bool) (script : Script) :
    OwnedRun f (script.after ⟨f.engine, at?, concurrentReads⟩) := by
  let library : Library := ⟨f.engine, at?, concurrentReads⟩
  have custody : Custody library.engine Owned := f.custody
  have sound : Sound library Owned none (script.after library) :=
    sound_after custody ⟨.empty, .nil, rfl⟩ script
  refine ⟨?_, sound.account.moment, ?_, ?_, ?_⟩
  · intro m earlier suffix
    exact (sound.past.at suffix).moment
  · rw [sound.library]
    exact ⟨fun _ _ _ shape noNul fails => openAt_failed _ at? concurrentReads shape noNul fails,
      fun _ _ noNul fails => openUnit_failed _ noNul fails,
      fun _ file _ noNul fails => openRecord_failed _ file noNul fails,
      fun _ _ noNul fails => unitInstant_failed _ noNul fails,
      fun _ _ _ noNul named fails => unitForOutput_failed _ noNul named fails⟩
  · intro call failed
    have after := keeps_call custody call sound
    exact ⟨call.holdings_of_fault _ failed, after.account.moment⟩
  · have empty := dropEverything_holdings (script.after library)
    have after := (keeps_dropEverything custody sound).account
    have none : (Client.dropEverything (script.after library)).2.now.resources = [] := by
      rw [Moment.resources, Client.now, empty]
      rfl
    rw [none] at after
    exact ⟨empty, after.2.1.eq_nil⟩

end CodeIndex
