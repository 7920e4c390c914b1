import Cadastre.Command.Run
import Cadastre.Command.Usage
import Std.Time.DateTime.Timestamp

/-!
The command line program: the machine's calls on the system it runs on.
-/

namespace Cadastre.Host

def faultOf (error : IO.Error) : SystemFault :=
  match error with
  | .noFileOrDirectory .. => ⟨true, toString error⟩
  | error => ⟨false, toString error⟩

def caught {α : Type} (action : IO α) : IO (Except SystemFault α) := do
  match ← action.toBaseIO with
  | .ok value => pure (.ok value)
  | .error error => pure (.error (faultOf error))

def readFile (path : String) : IO Bytes := do
  pure (← IO.FS.readBinFile path).toList

def writeFile (path : String) (contents : Bytes) : IO Unit :=
  IO.FS.writeBinFile path contents.toByteArray

def freshId : IO String := do
  pure (Bytes.hex (← IO.getRandomBytes 16).toList)

/-- Writes a file beside the final one, and then puts it in its place. -/
def replaceFile (path : String) (contents : Bytes) : IO Unit := do
  if let some directory := (Path.parent? path).filter (!·.isEmpty) then
    IO.FS.createDirAll directory
  let draft := Path.draft path (← freshId)
  writeFile draft contents
  IO.FS.rename draft path

def kindOf (path : String) : IO (Option PathKind) := do
  match ← (IO.FS.realPath path).toBaseIO with
  | .error _ => pure none
  | .ok real =>
    match ← (real.metadata).toBaseIO with
    | .error _ => pure none
    | .ok metadata =>
      match metadata.type with
      | .dir => pure (some .directory)
      | _ => pure (some .file)

def listDirectory (path : String) : IO (List DirectoryEntry) := do
  let entries ← (← IO.FS.realPath path).readDir
  entries.toList.mapM fun entry => do
    let metadata ← entry.path.metadata
    pure ⟨entry.fileName, metadata.byteSize⟩

def createDirectory (path : String) : IO String := do
  IO.FS.createDirAll path
  pure (toString (← IO.FS.realPath path))

def now : IO Moment := do
  let time ← Std.Time.Timestamp.now
  let nanoseconds := time.toNanosecondsSinceUnixEpoch.toInt
  pure ⟨nanoseconds.fdiv 1000000000, (nanoseconds.fmod 1000000000).toNat⟩

/-- Why requests over the network fail: there is nothing here that sends them. -/
def noTransport : String := "no network transport"

def answer : (request : Machine.Call) → IO (Machine.Answer request)
  | .readFile path => caught (readFile path)
  | .writeFile path contents => caught (writeFile path contents)
  | .replaceFile path contents => caught (replaceFile path contents)
  | .kindOf path => caught (kindOf path)
  | .listDirectory path => caught (listDirectory path)
  | .createDirectory path => caught (createDirectory path)
  | .post _ => pure (.error noTransport)
  | .putObject _ => pure (.error noTransport)
  | .pause seconds => IO.sleep (seconds * 1000).toUInt32
  | .now => now
  | .freshId => freshId

def perform {α : Type} (job : Job Machine α) : IO α := Job.run (S := Machine) answer job

/-- The entry that a definition such as `HOME=/root` makes. -/
def entry? (definition : Bytes) : Option (String × String) := do
  let text ← Text.fromUtf8? definition
  match text.toList.dropWhile (· ≠ '=') with
  | [] => none
  | _ :: value => some (.ofList (text.toList.takeWhile (· ≠ '=')), .ofList value)

/-- The variables as the system lists them, each ended by a zero. -/
def environment : IO Environment := do
  match ← (IO.FS.readBinFile "/proc/self/environ").toBaseIO with
  | .error _ => pure []
  | .ok bytes => pure ((bytes.toList.splitOn 0).filterMap entry?)

/-- Prints what came of a command; the causes of a fault go to the error stream. -/
def present (transcript : Transcript) : IO UInt32 := do
  transcript.lines.forM fun line => IO.println line
  match transcript.fault.elim [] CommandFault.causes with
  | [] => pure ()
  | first :: causes => do
    IO.eprintln s!"Error: {first}"
    unless causes.isEmpty do IO.eprintln "\nCaused by:"
    causes.forM fun cause => IO.eprintln s!"    {cause}"
  pure transcript.exitCode

end Cadastre.Host

open Cadastre

def main (arguments : List String) : IO UInt32 := do
  let environment ← Host.environment
  match Arguments.read environment arguments with
  | .run settingsFile command =>
    Host.present (← Host.perform (command.run settingsFile environment))
  | .help =>
    Usage.lines.forM fun line => IO.println line
    pure 0
  | .version =>
    IO.println Usage.version
    pure 0
  | .misuse =>
    Usage.misuse.forM fun line => IO.eprintln line
    pure 2
