import Cadastre.Grid.Partition
import Cadastre.Json.Writer
import Cadastre.Time.Rfc3339

/-!
Windows: runs of consecutive local keys that lie in one aligned block. Each is written to the
registry by one call, and what came of it is reported.
-/

namespace Cadastre

/-- Consecutive keys. -/
abbrev Window := List LocalKey

namespace Window

/-- Whether a key goes on with the window that begins at `next`. -/
def joins (size : UInt64) (key next : LocalKey) : Bool :=
  next = key + 1 && next.toUInt64 / size = key.toUInt64 / size

/-- Puts a key in front of the windows of the keys above it. -/
def extend (size : UInt64) (key : LocalKey) (windows : List Window) : List Window :=
  match windows with
  | (next :: more) :: others =>
    if joins size key next then (key :: next :: more) :: others
    else [key] :: (next :: more) :: others
  | others => [key] :: others

/-- The windows of ascending keys, in blocks of `size` keys. -/
def ofKeys (size : UInt64) (keys : List LocalKey) : List Window :=
  keys.foldr (extend size) []

def first (window : Window) : LocalKey := window.head?.getD 0

def last (window : Window) : LocalKey := window.getLast?.getD 0

end Window

inductive WindowOutcome where
  | written
  /-- Every item was in the registry already. -/
  | skipped
  /-- Some item is not stored yet. -/
  | notReady
  | failed (reason : String)
  deriving DecidableEq, Repr

namespace WindowOutcome

def name : WindowOutcome → String
  | written => "written"
  | skipped => "skipped"
  | notReady => "not-ready"
  | failed _ => "failed"

def isFailed : WindowOutcome → Bool
  | failed _ => true
  | written | skipped | notReady => false

def isSettled : WindowOutcome → Bool
  | written | skipped => true
  | notReady | failed _ => false

end WindowOutcome

structure WindowReport where
  first : LocalKey
  last : LocalKey
  length : Nat
  outcome : WindowOutcome
  deriving DecidableEq, Repr

namespace WindowReport

def range (report : WindowReport) : String := s!"{report.first}-{report.last}"

def toJson (report : WindowReport) : Json :=
  .object (
    [("first", Json.nat report.first.toNat), ("last", Json.nat report.last.toNat),
      ("len", Json.nat report.length), ("outcome", .string report.outcome.name)]
      ++ match report.outcome with
        | .failed reason => [("reason", .string reason)]
        | _ => [])

end WindowReport

structure SyncReport where
  startedAt : Moment
  windows : List WindowReport
  deriving DecidableEq, Repr

namespace SyncReport

def count (report : SyncReport) (holds : WindowOutcome → Bool) : Nat :=
  report.windows.countP fun window => holds window.outcome

def written (report : SyncReport) : Nat := report.count fun outcome => outcome = .written

def skipped (report : SyncReport) : Nat := report.count fun outcome => outcome = .skipped

def notReady (report : SyncReport) : Nat := report.count fun outcome => outcome = .notReady

def failed (report : SyncReport) : Nat := report.count WindowOutcome.isFailed

def isComplete (report : SyncReport) : Bool :=
  report.windows.all fun window => window.outcome.isSettled

def toJson (report : SyncReport) : Json :=
  .object [("started_at", .string report.startedAt.rfc3339),
    ("windows", .array (report.windows.map WindowReport.toJson))]

end SyncReport

end Cadastre
