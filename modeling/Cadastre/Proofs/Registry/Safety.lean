import Cadastre.Pipeline.Workplace
import Cadastre.Proofs.Registry.Ledger
import Mathlib.Data.List.Induction

/-!
The ledger file through any requests, each of which goes to its end before the next one begins.
-/

namespace Cadastre

inductive LedgerCall where
  /-- The name and the time are those that the machine gives out. -/
  | register (id : String) (time : Moment) (capacity : UInt32) (defaults : RegistryDefaults)
  | append (call : AppendCall)

inductive LedgerReply where
  | registered (handle : RegistryHandle)
  | appended
  deriving DecidableEq

def Machine.onFile (path id : String) (time : Moment) :
    (request : Machine.Call) → StateM (Option Bytes) (Machine.Answer request)
  | .readFile asked => do
    let contents ← get
    pure (if asked = path then contents.elim (.error ⟨true, "absent"⟩) .ok
      else .error ⟨true, "absent"⟩)
  | .replaceFile asked contents => do
    if asked = path then
      set (some contents)
      pure (.ok ())
    else pure (.error ⟨false, "closed"⟩)
  | .writeFile _ _ => pure (.error ⟨false, "closed"⟩)
  | .kindOf _ => pure (.error ⟨false, "closed"⟩)
  | .listDirectory _ => pure (.error ⟨false, "closed"⟩)
  | .createDirectory _ => pure (.error ⟨false, "closed"⟩)
  | .post _ => pure (.error "closed")
  | .putObject _ => pure (.error "closed")
  | .pause _ => pure ()
  | .now => pure time
  | .freshId => pure id

namespace LedgerCall

def work (path : String) : LedgerCall → Job Machine (Except RegistryFault LedgerReply)
  | register _ _ capacity defaults => do
    let reply ← Ledger.registerAt path capacity defaults
    pure (reply.map .registered)
  | append call => do
    let reply ← Ledger.appendAt path call
    pure (reply.map fun () => .appended)

def answer (path : String) : LedgerCall →
    (request : Machine.Call) → StateM (Option Bytes) (Machine.Answer request)
  | register id time _ _ => Machine.onFile path id time
  | append _ => Machine.onFile path "" ⟨0, 0⟩

def perform (path : String) (call : LedgerCall) (contents : Option Bytes) :
    Except RegistryFault LedgerReply × Option Bytes :=
  ((call.work path).run (call.answer path)).run contents

def after (path : String) (calls : List LedgerCall) : Option Bytes :=
  calls.foldl (fun contents call => (call.perform path contents).2) none

end LedgerCall

namespace RegistryEntry

def Fits (entry : RegistryEntry) : Prop :=
  entry.name.utf8ByteSize ≤ 32 ∧ entry.uri.utf8ByteSize ≤ 200

theorem rejection?_eq_none_iff (entry : RegistryEntry) :
    entry.rejection? = none ↔ entry.Fits := by
  simp only [rejection?, Fits, Rejection.nameLimit, Rejection.uriLimit]
  by_cases longName : 32 < entry.name.utf8ByteSize
  · simp only [longName, if_true, reduceCtorEq, false_iff]
    omega
  by_cases longUri : 200 < String.utf8ByteSize entry.uri
  · simp only [longName, longUri, if_true, if_false, reduceCtorEq, false_iff]
    omega
  · simp only [longName, longUri, if_false, true_iff]
    omega

end RegistryEntry

namespace AppendCall

def Covers (append : AppendCall) (line : UInt32) : Prop :=
  append.first.toNat ≤ line.toNat ∧ line.toNat < append.first.toNat + append.entries.length

instance (append : AppendCall) (line : UInt32) : Decidable (append.Covers line) :=
  inferInstanceAs (Decidable (_ ∧ _))

def Apart (append other : AppendCall) : Prop :=
  append.handle.locator ≠ other.handle.locator ∨ ∀ line, ¬ (append.Covers line ∧ other.Covers line)

end AppendCall

namespace Ledger

def Bounded (ledger : Ledger) : Prop :=
  ∀ locator registry, ledger.get? locator = some registry →
    ∀ (line : UInt32) (entry : RegistryEntry), registry.lines[line]? = some entry →
      line.toNat < registry.capacity.toNat ∧ entry.Fits

def Accepts (ledger : Ledger) (append : AppendCall) : Prop :=
  (∀ entry ∈ append.entries, entry.Fits) ∧
    ∃ registry, ledger.get? append.handle.locator = some registry ∧
      registry.uniqueId = append.handle.uniqueId ∧
      append.first.toNat + append.entries.length ≤ registry.capacity.toNat

/-- The ledgers are alike but for the lines that the write sets to its entries. -/
structure Sets (ledger : Ledger) (append : AppendCall) (after : Ledger) : Prop where
  others : ∀ locator, locator ≠ append.handle.locator → after.get? locator = ledger.get? locator
  lines : ∃ registry lines, ledger.get? append.handle.locator = some registry ∧
    after.get? append.handle.locator = some { registry with lines } ∧
    (∀ line, append.Covers line →
      lines[line]? = append.entries[line.toNat - append.first.toNat]?) ∧
    ∀ line, ¬ append.Covers line → lines[line]? = registry.lines[line]?

end Ledger

structure Ledger.Safe (path : String) (contents : Option Bytes) (ledger : Ledger) : Prop where
  opens : ofFile contents = .ok ledger
  bounded : ledger.Bounded
  accepts : ∀ call, ((LedgerCall.append call).perform path contents).1 = .ok .appended
    ↔ ledger.Accepts call
  sets : ∀ call, ledger.Accepts call → ∃ after,
    ofFile ((LedgerCall.append call).perform path contents).2 = .ok after ∧ ledger.Sets call after
  registers : ∀ id time capacity defaults handle,
    ((LedgerCall.register id time capacity defaults).perform path contents).1
      = .ok (.registered handle) → ∃ after,
        ofFile ((LedgerCall.register id time capacity defaults).perform path contents).2
          = .ok after ∧ ledger.Opens handle after
  refuses : ∀ (call : LedgerCall) fault,
    (call.perform path contents).1 = .error fault → (call.perform path contents).2 = contents
  lasts : ∀ call other, ledger.Accepts call →
    (((LedgerCall.append other).perform path
      ((LedgerCall.append call).perform path contents).2).1 = .ok .appended
        ↔ ledger.Accepts other)
  commutes : ∀ call other, call.Apart other → ledger.Accepts call → ledger.Accepts other →
    ∃ bytes,
      (LedgerCall.append other).perform path ((LedgerCall.append call).perform path contents).2
        = (.ok .appended, some bytes) ∧
      (LedgerCall.append call).perform path ((LedgerCall.append other).perform path contents).2
        = (.ok .appended, some bytes)

theorem Job.run_call {S : Signature} {σ α : Type} {request : S.Call}
    {answer : (request : S.Call) → StateM σ (S.Answer request)} {state after : σ}
    {reply : S.Answer request} {next : S.Answer request → Job S α}
    (answered : (answer request).run state = (reply, after)) :
    ((Job.call request next).run answer).run state = ((next reply).run answer).run after := by
  change (answer request >>= fun reply => (next reply).run answer).run state = _
  rw [StateT.run_bind, answered]
  rfl

namespace Machine

variable {path id : String} {time : Moment} {contents : Option Bytes} {α : Type}

theorem run_readIfPresent (next : Except String (Option Bytes) → Job Machine α) :
    ((readIfPresent path >>= next).run (onFile path id time)).run contents
      = ((next (.ok contents)).run (onFile path id time)).run contents := by
  have read : (onFile path id time (.readFile path)).run contents
      = (contents.elim (.error ⟨true, "absent"⟩) .ok, contents) := by
    simp only [onFile]
    rfl
  refine (Job.run_call (S := Machine) read).trans ?_
  cases contents with
  | none => rfl
  | some bytes => rfl

theorem run_replaceFile (bytes : Bytes) (next : Except SystemFault Unit → Job Machine α) :
    ((replaceFile path bytes >>= next).run (onFile path id time)).run contents
      = ((next (.ok ())).run (onFile path id time)).run (some bytes) := by
  have replaced : (onFile path id time (.replaceFile path bytes)).run contents
      = (.ok (), some bytes) := by
    simp only [onFile, if_true]
    rfl
  exact Job.run_call (S := Machine) replaced

end Machine

namespace LedgerCall

variable {path : String} {contents : Option Bytes}

theorem perform_register (path : String) (contents : Option Bytes) (id : String) (time : Moment)
    (capacity : UInt32) (defaults : RegistryDefaults) :
    (register id time capacity defaults).perform path contents
      = match Ledger.registerIn (.ok contents) ⟨id, time.rfc3339⟩ capacity defaults with
        | .error fault => (.error fault, contents)
        | .ok (handle, ledger) => (.ok (.registered handle), some ledger.bytes) := by
  have read : (register id time capacity defaults).perform path contents
      = ((do
          let reply ← (match Ledger.registerIn (.ok contents) ⟨id, time.rfc3339⟩ capacity defaults
            with
            | .error fault => pure (.error fault)
            | .ok (handle, ledger) => do
              let saved ← Ledger.saveAt path ledger
              pure (saved.map fun () => handle) :
                Job Machine (Except RegistryFault RegistryHandle))
          pure (reply.map LedgerReply.registered)).run (Machine.onFile path id time)).run
            contents := by
    simp only [perform, work, Ledger.registerAt, bind_assoc, answer]
    rw [Machine.run_readIfPresent]
    rfl
  rw [read]
  cases Ledger.registerIn (.ok contents) ⟨id, time.rfc3339⟩ capacity defaults with
  | error fault => rfl
  | ok created =>
      simp only [Ledger.saveAt, bind_assoc]
      rw [Machine.run_replaceFile]
      rfl

theorem perform_append (path : String) (contents : Option Bytes) (call : AppendCall) :
    (append call).perform path contents
      = match Ledger.appendIn (.ok contents) call.handle call.entries call.first with
        | .error fault => (.error fault, contents)
        | .ok ledger => (.ok .appended, some ledger.bytes) := by
  simp only [perform, work, Ledger.appendAt, bind_assoc, answer]
  rw [Machine.run_readIfPresent]
  cases Ledger.appendIn (.ok contents) call.handle call.entries call.first with
  | error fault => rfl
  | ok ledger =>
      simp only [Ledger.saveAt, bind_assoc]
      rw [Machine.run_replaceFile]
      rfl

end LedgerCall

namespace AppendCall

variable {append other : AppendCall}

def on (append : AppendCall) (locator : Locator) (registry : Registry) : Registry :=
  if locator = append.handle.locator then
    { registry with lines := Ledger.writeLines registry.lines append.first append.entries }
  else registry

theorem id_on (append : AppendCall) (locator : Locator) (registry : Registry) :
    (append.on locator registry).uniqueId = registry.uniqueId := by
  unfold on
  split <;> rfl

theorem capacity_on (append : AppendCall) (locator : Locator) (registry : Registry) :
    (append.on locator registry).capacity = registry.capacity := by
  unfold on
  split <;> rfl

end AppendCall

namespace Ledger

theorem getElem?_writeLines (lines : Std.ExtTreeMap UInt32 RegistryEntry) {first : UInt32}
    {entries : List RegistryEntry} (room : first.toNat + entries.length < UInt32.size)
    (line : UInt32) :
    (writeLines lines first entries)[line]?
      = if first.toNat ≤ line.toNat ∧ line.toNat < first.toNat + entries.length then
          entries[line.toNat - first.toNat]? else lines[line]? := by
  induction entries generalizing lines first with
  | nil =>
      rw [if_neg (by simp)]
      rfl
  | cons entry rest ih =>
      rw [List.length_cons] at room
      have next : (first + 1).toNat = first.toNat + 1 := by
        rw [UInt32.toNat_add]
        change first.toNat + (rest.length + 1) < 2 ^ 32 at room
        exact Nat.mod_eq_of_lt (by change first.toNat + 1 < 2 ^ 32; omega)
      rw [writeLines, ih _ (by omega), next, Std.ExtTreeMap.getElem?_insert, List.length_cons]
      simp only [Std.compare_eq_iff_eq, ← UInt32.toNat_inj]
      by_cases here : first.toNat = line.toNat
      · rw [if_neg (by omega), if_pos here, if_pos (by omega), here, Nat.sub_self]
        rfl
      · rw [if_neg here]
        by_cases later : first.toNat + 1 ≤ line.toNat ∧
            line.toNat < first.toNat + 1 + rest.length
        · rw [if_pos later, if_pos (by omega)]
          obtain ⟨offset, apart⟩ : ∃ offset, line.toNat = first.toNat + 1 + offset :=
            ⟨line.toNat - (first.toNat + 1), by omega⟩
          rw [apart, Nat.add_sub_cancel_left, Nat.add_assoc, Nat.add_sub_cancel_left,
            Nat.add_comm 1 offset, List.getElem?_cons_succ]
        · rw [if_neg later, if_neg (by omega)]

def write (ledger : Ledger) (append : AppendCall) : Ledger :=
  match ledger.get? append.handle.locator with
  | none => ledger
  | some registry =>
    ledger.put append.handle.locator (append.on append.handle.locator registry)

variable {ledger after : Ledger} {append other : AppendCall}

theorem ext_get? {one two : Ledger} (same : ∀ locator, one.get? locator = two.get? locator) :
    one = two := by
  obtain ⟨left⟩ := one
  obtain ⟨right⟩ := two
  exact congrArg mk (Std.ExtTreeMap.ext_getElem? fun {locator} => same locator)

theorem get?_write (ledger : Ledger) (append : AppendCall) (locator : Locator) :
    (ledger.write append).get? locator
      = (ledger.get? locator).map (append.on locator) := by
  unfold write
  by_cases here : locator = append.handle.locator
  · subst here
    cases found : ledger.get? append.handle.locator with
    | none => simp [found]
    | some registry => simp [AppendCall.on]
  · have untouched : append.on locator = id := by
      funext registry
      simp [AppendCall.on, here]
    rw [untouched, Option.map_id]
    cases ledger.get? append.handle.locator with
    | none => rfl
    | some registry => exact get?_put_of_ne ledger _ (Ne.symm here)

theorem accepts_write_iff : (ledger.write append).Accepts other ↔ ledger.Accepts other := by
  unfold Accepts
  rw [get?_write]
  simp [AppendCall.id_on, AppendCall.capacity_on]

theorem ok_of_accepts {contents : Option Bytes} (opened : ofFile contents = .ok ledger)
    (accepts : ledger.Accepts append) :
    appendIn (.ok contents) append.handle append.entries append.first
      = .ok (ledger.write append) := by
  obtain ⟨fits, registry, found, id, room⟩ := accepts
  have passes : append.entries.findSome? RegistryEntry.rejection? = none := by
    rw [List.findSome?_eq_none_iff]
    exact fun entry member => entry.rejection?_eq_none_iff.mpr (fits entry member)
  simp only [appendIn, passes, ofReading, opened, bind, Except.bind, Ledger.append, found]
  rw [if_neg (not_not.mpr id), if_neg (by omega)]
  simp only [write, found, AppendCall.on, if_true]

theorem accepts_of_ok {contents : Option Bytes} (opened : ofFile contents = .ok ledger)
    (done : appendIn (.ok contents) append.handle append.entries append.first = .ok after) :
    ledger.Accepts append := by
  unfold appendIn at done
  split at done
  · cases done
  rename_i passes
  simp only [ofReading, opened, bind, Except.bind, Ledger.append] at done
  cases found : ledger.get? append.handle.locator with
  | none => simp [found] at done
  | some registry =>
      simp only [found] at done
      split at done
      · cases done
      rename_i id
      split at done
      · cases done
      rename_i room
      refine ⟨fun entry member => ?_, registry, found, not_not.mp id, by omega⟩
      rw [List.findSome?_eq_none_iff] at passes
      exact entry.rejection?_eq_none_iff.mp (passes entry member)

theorem getElem?_written {registry : Registry}
    (room : append.first.toNat + append.entries.length ≤ registry.capacity.toNat)
    (lines : Std.ExtTreeMap UInt32 RegistryEntry) (line : UInt32) :
    (writeLines lines append.first append.entries)[line]?
      = if append.Covers line then append.entries[line.toNat - append.first.toNat]?
        else lines[line]? :=
  getElem?_writeLines lines (Nat.lt_of_le_of_lt room registry.capacity.toNat_lt) line

theorem sets_write (accepts : ledger.Accepts append) :
    ledger.Sets append (ledger.write append) := by
  obtain ⟨-, registry, found, -, room⟩ := accepts
  constructor
  · intro locator other
    rw [get?_write]
    cases ledger.get? locator with
    | none => rfl
    | some registry => simp [AppendCall.on, other]
  · refine ⟨registry, writeLines registry.lines append.first append.entries, found, ?_, ?_, ?_⟩
    · rw [get?_write, found]
      simp [AppendCall.on]
    · intro line covered
      rw [getElem?_written room, if_pos covered]
    · intro line covered
      rw [getElem?_written room, if_neg covered]

theorem bounded_write (bounded : ledger.Bounded) (accepts : ledger.Accepts append) :
    (ledger.write append).Bounded := by
  have sets := sets_write accepts
  obtain ⟨fits, registry, found, -, room⟩ := accepts
  intro locator changed held line entry there
  by_cases here : locator = append.handle.locator
  · subst here
    obtain ⟨registry', lines, found', written, set, kept⟩ := sets.lines
    rw [found] at found'
    cases found'
    rw [held] at written
    cases written
    by_cases covered : append.Covers line
    · rw [set line covered] at there
      exact ⟨by have := covered.2; dsimp only; omega, fits entry (List.mem_of_getElem? there)⟩
    · rw [kept line covered] at there
      exact bounded _ _ found line entry there
  · rw [sets.others locator here] at held
    exact bounded locator changed held line entry there

theorem write_comm (apart : append.Apart other) (accepts : ledger.Accepts append)
    (otherAccepts : ledger.Accepts other) :
    (ledger.write append).write other = (ledger.write other).write append := by
  obtain ⟨-, registry, found, -, room⟩ := accepts
  obtain ⟨-, registry', found', -, otherRoom⟩ := otherAccepts
  refine ext_get? fun locator => ?_
  simp only [get?_write, Option.map_map]
  refine congrArg (Option.map · (ledger.get? locator)) (funext fun held => ?_)
  simp only [Function.comp_apply, AppendCall.on]
  by_cases one : locator = append.handle.locator
  · by_cases two : locator = other.handle.locator
    · -- One registry, so the writes have no line in common.
      have disjoint := apart.resolve_left (not_not.mpr (one.symm.trans two))
      rw [if_pos one, if_pos two, if_pos one, if_pos two]
      refine congrArg (fun lines => { held with lines }) ?_
      refine Std.ExtTreeMap.ext_getElem? fun {line} => ?_
      simp only [getElem?_written room, getElem?_written otherRoom]
      by_cases first : append.Covers line
      · rw [if_pos first, if_neg fun second => disjoint line ⟨first, second⟩, if_pos first]
      · rw [if_neg first, if_neg first]
    · rw [if_pos one, if_neg two, if_neg two, if_pos one]
  · rw [if_neg one, if_neg one]

theorem bounded_of_opens {handle : RegistryHandle} (bounded : ledger.Bounded)
    (opens : ledger.Opens handle after) : after.Bounded := by
  obtain ⟨-, registry, -, bare, rfl⟩ := opens
  intro locator held found line entry there
  by_cases here : handle.locator = locator
  · subst here
    rw [get?_put_self] at found
    cases found
    simp [bare] at there
  · rw [get?_put_of_ne ledger registry here] at found
    exact bounded locator held found line entry there

end Ledger

namespace LedgerCall

variable {ledger : Ledger}

theorem perform_of_accepts (opened : Ledger.ofFile contents = .ok ledger) {call : AppendCall}
    (accepts : ledger.Accepts call) :
    (append call).perform path contents = (.ok .appended, some (ledger.write call).bytes) := by
  rw [perform_append, Ledger.ok_of_accepts opened accepts]

theorem appended_iff (opened : Ledger.ofFile contents = .ok ledger) (call : AppendCall) :
    ((append call).perform path contents).1 = .ok .appended ↔ ledger.Accepts call := by
  constructor
  · intro done
    rw [perform_append] at done
    split at done
    · cases done
    · rename_i after written
      exact Ledger.accepts_of_ok opened written
  · intro accepts
    rw [perform_of_accepts opened accepts]

theorem opens_of_registered (opened : Ledger.ofFile contents = .ok ledger) {id : String}
    {time : Moment} {capacity : UInt32} {defaults : RegistryDefaults} {handle : RegistryHandle}
    (done : ((register id time capacity defaults).perform path contents).1
      = .ok (.registered handle)) :
    ∃ after, Ledger.ofFile ((register id time capacity defaults).perform path contents).2
      = .ok after ∧ ledger.Opens handle after := by
  rw [perform_register] at done ⊢
  split at done
  · cases done
  · rename_i created after registered
    cases done
    exact ⟨after, after.ofFile_bytes, Ledger.opens_of_registerIn opened registered⟩

theorem perform_of_refused {call : LedgerCall} {fault : RegistryFault}
    (refused : (call.perform path contents).1 = .error fault) :
    (call.perform path contents).2 = contents := by
  cases call with
  | register id time capacity defaults =>
      rw [perform_register] at refused ⊢
      split at refused
      · rfl
      · cases refused
  | append call =>
      rw [perform_append] at refused ⊢
      split at refused
      · rfl
      · cases refused

theorem bounded_perform (opened : Ledger.ofFile contents = .ok ledger) (bounded : ledger.Bounded)
    (call : LedgerCall) :
    ∃ after, Ledger.ofFile (call.perform path contents).2 = .ok after ∧ after.Bounded := by
  cases call with
  | register id time capacity defaults =>
      rw [perform_register]
      split
      · exact ⟨ledger, opened, bounded⟩
      · rename_i handle after created
        exact ⟨after, after.ofFile_bytes,
          Ledger.bounded_of_opens bounded (Ledger.opens_of_registerIn opened created)⟩
  | append call =>
      by_cases accepts : ledger.Accepts call
      · rw [perform_of_accepts opened accepts]
        exact ⟨_, Ledger.ofFile_bytes _, Ledger.bounded_write bounded accepts⟩
      · rw [perform_append]
        split
        · exact ⟨ledger, opened, bounded⟩
        · rename_i after written
          exact absurd (Ledger.accepts_of_ok opened written) accepts

theorem bounded_after (path : String) (calls : List LedgerCall) :
    ∃ ledger, Ledger.ofFile (after path calls) = .ok ledger ∧ ledger.Bounded := by
  induction calls using List.reverseRecOn with
  | nil =>
      refine ⟨.empty, rfl, fun locator registry found => ?_⟩
      simp [Ledger.get?, Ledger.empty] at found
  | append_singleton calls call ih =>
      obtain ⟨ledger, opened, bounded⟩ := ih
      unfold after
      rw [List.foldl_append]
      exact bounded_perform opened bounded call

end LedgerCall

/-- After any requests the file is a ledger whose lines are within the limits, a write is done if
and only if it may be, in its own lines alone, and writes that are apart come in any order. -/
theorem Ledger.safe_after (path : String) (calls : List LedgerCall) :
    ∃ ledger, Safe path (LedgerCall.after path calls) ledger := by
  obtain ⟨ledger, opened, bounded⟩ := LedgerCall.bounded_after path calls
  refine ⟨ledger, opened, bounded, LedgerCall.appended_iff opened, ?_,
    fun _ _ _ _ _ => LedgerCall.opens_of_registered opened,
    fun _ _ => LedgerCall.perform_of_refused, ?_, ?_⟩
  · intro call accepts
    rw [LedgerCall.perform_of_accepts opened accepts]
    exact ⟨_, ofFile_bytes _, sets_write accepts⟩
  · intro call other accepts
    rw [LedgerCall.perform_of_accepts opened accepts,
      LedgerCall.appended_iff (ofFile_bytes _), accepts_write_iff]
  · intro call other apart accepts otherAccepts
    rw [LedgerCall.perform_of_accepts opened accepts,
      LedgerCall.perform_of_accepts opened otherAccepts,
      LedgerCall.perform_of_accepts (ofFile_bytes _) (accepts_write_iff.mpr otherAccepts),
      LedgerCall.perform_of_accepts (ofFile_bytes _) (accepts_write_iff.mpr accepts),
      write_comm apart accepts otherAccepts]
    exact ⟨_, rfl, rfl⟩

example :
    let contents := LedgerCall.after "ledger.json"
      [.register "00112233445566778899aabbccddeeff" ⟨0, 0⟩ 2 ⟨"LAND", 500, [], true, true, 0⟩]
    let handle : RegistryHandle := ⟨"001122", "registry-00112233445566778899aabbccddeeff"⟩
    let write := fun line => LedgerCall.append ⟨handle, [⟨"Land #1", "ipfs://1"⟩], line⟩
    ((write 1).perform "ledger.json" contents).1 = .ok .appended ∧
      ((write 2).perform "ledger.json" contents).1
        = .error (Rejection.beyondCapacity 2 3 2).fault := by
  decide +kernel

end Cadastre
