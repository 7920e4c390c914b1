import Cadastre.Pipeline.Fault
import Cadastre.Pipeline.Site

/-!
Journals of a site: what the cache file held, and how every call was answered. Between two journals
nothing may have failed, or nothing but looks may have been made; a fault is put down to the last
answer.
-/

namespace Cadastre

namespace Site

def Answer.isFault : (request : Call) → Answer request → Bool
  | .readCache, (reply : Except String (Option Bytes)) => !reply.isOk
  | .replaceCache _, (reply : Except String Unit) => !reply.isOk
  | .listAssets, (reply : Except String (List DirectoryEntry)) => !reply.isOk
  | .readAsset _, (reply : Except String Bytes) => !reply.isOk
  | .storePairs _, (reply : Except StorageFault (List UploadedPair)) => !reply.isOk
  | .register _ _, (reply : Except RegistryFault RegistryHandle) => !reply.isOk
  | .startAppend _, _ => false
  | .awaitAppend _ _, (reply : Fin _ × Except RegistryFault Unit) => !reply.2.isOk
  | .now, _ => false

structure Exchange where
  request : Call
  reply : Answer request

namespace Exchange

def isFault (exchange : Exchange) : Bool := Answer.isFault exchange.request exchange.reply

def delivery? : Exchange → Option (Except StorageFault (List UploadedPair))
  | ⟨.storePairs _, reply⟩ => some reply
  | _ => none

end Exchange

structure Journal where
  cache : Option Bytes := none
  /-- What the cache file held before each save, the oldest first. -/
  past : List (Option Bytes) := []
  exchanges : List Exchange := []

namespace Journal

def save (journal : Journal) (contents : Bytes) : Journal :=
  { journal with cache := some contents, past := journal.past ++ [journal.cache] }

def hear (journal : Journal) (exchange : Exchange) : Journal :=
  { journal with exchanges := journal.exchanges ++ [exchange] }

def files (journal : Journal) : List (Option Bytes) := journal.past ++ [journal.cache]

def deliveries (journal : Journal) : List (Except StorageFault (List UploadedPair)) :=
  journal.exchanges.filterMap Exchange.delivery?

@[simp] theorem files_hear (journal : Journal) (exchange : Exchange) :
    (journal.hear exchange).files = journal.files := rfl

@[simp] theorem files_save (journal : Journal) (contents : Bytes) :
    (journal.save contents).files = journal.files ++ [some contents] := rfl

theorem deliveries_hear (journal : Journal) (exchange : Exchange) :
    (journal.hear exchange).deliveries = journal.deliveries ++ exchange.delivery?.toList := by
  rw [deliveries, hear, List.filterMap_append, deliveries]
  cases heard : exchange.delivery? with
  | none => simp [heard]
  | some reply => simp [heard]

@[simp] theorem deliveries_save (journal : Journal) (contents : Bytes) :
    (journal.save contents).deliveries = journal.deliveries := rfl

/-- Whether nothing was saved and nothing was asked of the provider since. -/
structure Untouched (before after : Journal) : Prop where
  files : after.files = before.files
  deliveries : after.deliveries = before.deliveries

/-- Whether nothing failed since. -/
def Fluent (before after : Journal) : Prop :=
  ∃ heard, after.exchanges = before.exchanges ++ heard ∧
    ∀ exchange ∈ heard, exchange.isFault = false

/-- Whether this is the last that was heard, and nothing failed before it. -/
def Stopped (before : Journal) (exchange : Exchange) (after : Journal) : Prop :=
  ∃ heard, after.exchanges = before.exchanges ++ heard ++ [exchange] ∧
    ∀ earlier ∈ heard, earlier.isFault = false

/-- Whether nothing failed since, nothing was saved and nothing was asked of the provider. -/
inductive Quiet (before : Journal) : Journal → Prop where
  | rest : Quiet before before
  | hear {after : Journal} {exchange : Exchange} : Quiet before after →
      exchange.isFault = false → exchange.delivery? = none → Quiet before (after.hear exchange)

/-- Whether an assertion goes on to hold while the provider is not asked and nothing is saved. -/
def Steady (holds : Journal → Prop) : Prop :=
  ∀ state exchange, exchange.delivery? = none → holds state → holds (state.hear exchange)

/-- Whether a run may come to grief so at any point that is quiet until then, right when it hears
what causes the fault. -/
def Blames (causes : Exchange → PipelineFault → Prop) (fails : PipelineFault → Journal → Prop)
    (state : Journal) : Prop :=
  ∀ between exchange fault, state.Quiet between → causes exchange fault →
    fails fault (between.hear exchange)

variable {before between after : Journal} {exchange : Exchange}

theorem Quiet.trans (first : before.Quiet between) (second : between.Quiet after) :
    before.Quiet after := by
  induction second with
  | rest => exact first
  | hear _ fine unasked ih => exact .hear ih fine unasked

theorem Quiet.keeps {holds : Journal → Prop} (quiet : before.Quiet after) (steady : Steady holds)
    (held : holds before) : holds after := by
  induction quiet with
  | rest => exact held
  | hear _ _ unasked ih => exact steady _ _ unasked ih

theorem Quiet.cache_eq (quiet : before.Quiet after) : after.cache = before.cache := by
  have steady : Steady fun state => state.cache = before.cache := fun _ _ _ held => held
  exact quiet.keeps steady rfl

theorem Quiet.blames {causes : Exchange → PipelineFault → Prop}
    {fails : PipelineFault → Journal → Prop} (quiet : before.Quiet after)
    (blames : Blames causes fails before) : Blames causes fails after :=
  fun between exchange fault later cause => blames between exchange fault (quiet.trans later) cause

theorem Untouched.steady (before : Journal) : Steady before.Untouched := by
  intro state exchange unasked untouched
  refine ⟨untouched.files, ?_⟩
  rw [deliveries_hear, unasked, untouched.deliveries, Option.toList_none, List.append_nil]

theorem Fluent.refl (journal : Journal) : journal.Fluent journal := ⟨[], by simp, nofun⟩

theorem Fluent.hear (fluent : before.Fluent after) (fine : exchange.isFault = false) :
    before.Fluent (after.hear exchange) := by
  obtain ⟨heard, same, flows⟩ := fluent
  refine ⟨heard ++ [exchange], ?_, ?_⟩
  · rw [Journal.hear, same, List.append_assoc]
  · intro earlier member
    rcases List.mem_append.mp member with before | last
    · exact flows earlier before
    · rw [List.mem_singleton.mp last]
      exact fine

theorem Fluent.quiet (fluent : before.Fluent between) (quiet : between.Quiet after) :
    before.Fluent after := by
  induction quiet with
  | rest => exact fluent
  | hear _ fine _ ih => exact ih.hear fine

theorem Fluent.stopped (fluent : before.Fluent after) (exchange : Exchange) :
    before.Stopped exchange (after.hear exchange) := by
  obtain ⟨heard, same, flows⟩ := fluent
  exact ⟨heard, by rw [Journal.hear, same], flows⟩

end Journal

end Site

end Cadastre
