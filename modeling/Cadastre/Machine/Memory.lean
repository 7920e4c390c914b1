import Cadastre.Digest.ContentDigest
import Cadastre.Machine.Basic
import Cadastre.Path
import Std.Data.ExtTreeMap

/-!
A machine in memory: a tree of files, a clock that stands still, random names that are counted,
and no network. Paths are walked name by name, so that a file in the place of a directory is in
the way.
-/

namespace Cadastre

/-- The names that lead from the root to a place. -/
abbrev Location := List String

inductive Node where
  | file (contents : Bytes)
  | directory
  deriving DecidableEq, Repr

structure MemoryMachine where
  /-- What lies below the root. The working directory and those above it are there anyway. -/
  nodes : Std.ExtTreeMap Location Node := ∅
  workDir : Location := []
  clock : Moment := { seconds := 0 }
  /-- Random names given out so far. -/
  named : Nat := 0

namespace MemoryMachine

/-- The one reason this machine gives for what it cannot do. -/
def refusal : String := "refused by the machine"

def missing : SystemFault := ⟨true, refusal⟩

def refused : SystemFault := ⟨false, refusal⟩

def node? (machine : MemoryMachine) (location : Location) : Option Node :=
  if location.isPrefixOf machine.workDir then some .directory else machine.nodes[location]?

def put (machine : MemoryMachine) (location : Location) (node : Node) : MemoryMachine :=
  { machine with nodes := machine.nodes.insert location node }

def step (location : Location) (name : String) : Location :=
  if name.isEmpty || name = "." then location
  else if name = ".." then location.dropLast
  else location ++ [name]

def start (machine : MemoryMachine) (path : String) : Location :=
  if path.startsWith "/" then [] else machine.workDir

def names (path : String) : List String := path.splitOn "/"

/-- Bytes of a name at most. -/
def longestName : Nat := 255

/-- Bytes of a path at most. -/
def longestPath : Nat := 4095

/-- Follows names; every one must be looked for in a directory, and not be too long. -/
def walk (machine : MemoryMachine) (location : Location) :
    List String → Except SystemFault Location
  | [] => .ok location
  | name :: rest =>
    match machine.node? location with
    | none => .error missing
    | some (.file _) => .error refused
    | some .directory =>
      if longestName < name.utf8ByteSize then .error refused
      else walk machine (step location name) rest

def locate (machine : MemoryMachine) (path : String) : Except SystemFault Location :=
  if path.isEmpty then .error missing
  else if longestPath < path.utf8ByteSize then .error refused
  else machine.walk (machine.start path) (names path)

def find? (machine : MemoryMachine) (path : String) :
    Except SystemFault (Option (Location × Node)) :=
  match machine.locate path with
  | .ok location => .ok ((machine.node? location).map fun node => (location, node))
  | .error fault => if fault.missing then .ok none else .error fault

def isDirectory (machine : MemoryMachine) (path : String) : Bool :=
  match machine.find? path with
  | .ok (some (_, .directory)) => true
  | _ => false

def pathOf (location : Location) : String := "/" ++ String.intercalate "/" location

def directorySize : UInt64 := 4096

def sizeOf : Node → UInt64
  | .file contents => UInt64.ofNat contents.length
  | .directory => directorySize

def readFile (machine : MemoryMachine) (path : String) : Except SystemFault Bytes := do
  match ← machine.find? path with
  | none => .error missing
  | some (_, .directory) => .error refused
  | some (_, .file contents) => .ok contents

def contents? (machine : MemoryMachine) (path : String) : Option Bytes :=
  (machine.readFile path).toOption

def kindOf (machine : MemoryMachine) (path : String) : Except SystemFault (Option PathKind) := do
  match ← machine.find? path with
  | none => .ok none
  | some (_, .directory) => .ok (some .directory)
  | some (_, .file _) => .ok (some .file)

/-- What lies directly in a place, from the last name to the first. -/
def entriesIn (machine : MemoryMachine) (location : Location) : List DirectoryEntry :=
  machine.nodes.toList.reverse.filterMap fun (place, node) =>
    if place.dropLast = location then
      place.getLast?.map fun name => ⟨name, sizeOf node⟩
    else none

def listDirectory (machine : MemoryMachine) (path : String) :
    Except SystemFault (List DirectoryEntry) := do
  match ← machine.find? path with
  | none => .error missing
  | some (_, .file _) => .error refused
  | some (location, .directory) => .ok (machine.entriesIn location)

/-- Whether a path can end with this name where it names something new. -/
def isNew (name : String) : Bool := !(name.isEmpty || name = "." || name = "..")

/-- Puts a node at a path that ends with a name, which is looked for in a directory and must not
be in use for anything that `mayReplace` does not allow. -/
def putAt (machine : MemoryMachine) (path : String) (node : Node) (mayReplace : Node → Bool) :
    Except SystemFault Unit × MemoryMachine :=
  match machine.locate path with
  | .error fault => (.error fault, machine)
  | .ok location =>
    if isNew ((names path).getLast?.getD "") && (machine.node? location).all mayReplace then
      (.ok (), machine.put location node)
    else (.error refused, machine)

def writeFile (machine : MemoryMachine) (path : String) (contents : Bytes) :
    Except SystemFault Unit × MemoryMachine :=
  machine.putAt path (.file contents) fun node => decide (node ≠ .directory)

def bare (path : String) : String :=
  .ofList (path.toList.reverse.dropWhile (· = '/')).reverse

def addDirectory (machine : MemoryMachine) (path : String) :
    Except SystemFault Unit × MemoryMachine :=
  if path.isEmpty || machine.isDirectory path then (.ok (), machine)
  else if longestPath < path.utf8ByteSize then (.error refused, machine)
  else machine.putAt (bare path) .directory fun _ => false

/-- Creates the first of some directories, each of which is to lie in the next one. The others are
looked at only as far as there is need. -/
def addDirectories (machine : MemoryMachine) :
    List String → Except SystemFault Unit × MemoryMachine
  | [] => (.ok (), machine)
  | path :: above =>
    match machine.addDirectory path with
    | (.error ⟨true, _⟩, _) =>
      match machine.addDirectories above with
      | (.ok (), machine) => machine.addDirectory path
      | failed => failed
    | outcome => outcome

def createDirectory (machine : MemoryMachine) (path : String) :
    Except SystemFault String × MemoryMachine :=
  match machine.addDirectories (path :: Path.above path) with
  | (.ok (), machine) => ((machine.locate path).map pathOf, machine)
  | (.error fault, machine) => (.error fault, machine)

/-- The machine with a file and the directories above it, as far as there can be such a file. -/
def install (machine : MemoryMachine) (path : String) (contents : Bytes) : MemoryMachine :=
  ((machine.addDirectories (Path.above path)).2.writeFile path contents).2

def removeFile (machine : MemoryMachine) (path : String) : MemoryMachine :=
  match machine.find? path with
  | .ok (some (location, .file _)) => { machine with nodes := machine.nodes.erase location }
  | _ => machine

def filesBelow (machine : MemoryMachine) (location : Location) : List (Location × Bytes) :=
  machine.nodes.toList.filterMap fun (place, node) =>
    match node with
    | .directory => none
    | .file contents => if location.isPrefixOf place then some (place, contents) else none

/-- The name that stands for the given number of names before it. -/
def freshName (named : Nat) : String :=
  .ofList ((ContentDigest.ofBytes (Text.utf8 (toString named))).hex.toList.take 32)

/-- Writes a draft beside the file, and puts it in the file's place. A draft that finds no place
stays. -/
def replaceFile (machine : MemoryMachine) (path : String) (contents : Bytes) :
    Except SystemFault Unit × MemoryMachine :=
  let draft := Path.draft path (freshName machine.named)
  let machine := { machine with named := machine.named + 1 }
  match machine.addDirectories (Path.above path) with
  | (.error fault, machine) => (.error fault, machine)
  | (.ok (), machine) =>
    match machine.writeFile draft contents with
    | (.error fault, machine) => (.error fault, machine)
    | (.ok (), machine) =>
      let (moved, machine) := machine.writeFile path contents
      (moved, if moved.isOk then machine.removeFile draft else machine)

def answer : (request : Machine.Call) → StateM MemoryMachine (Machine.Answer request)
  | .readFile path => do pure ((← get).readFile path)
  | .writeFile path contents => modifyGet fun machine => machine.writeFile path contents
  | .replaceFile path contents => modifyGet fun machine => machine.replaceFile path contents
  | .kindOf path => do pure ((← get).kindOf path)
  | .listDirectory path => do pure ((← get).listDirectory path)
  | .createDirectory path => modifyGet fun machine => machine.createDirectory path
  | .post _ => pure (.error refusal)
  | .putObject _ => pure (.error refusal)
  | .pause _ => pure ()
  | .now => do pure (← get).clock
  | .freshId => modifyGet fun machine =>
    (freshName machine.named, { machine with named := machine.named + 1 })

def perform {α : Type} (machine : MemoryMachine) (job : Job Machine α) : α × MemoryMachine :=
  (job.run (m := StateM MemoryMachine) answer).run machine

end MemoryMachine

end Cadastre
