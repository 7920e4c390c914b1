import Cadastre.Job
import Cadastre.Text.Utf8

/-!
What the program asks of the machine it runs on: files, requests over the network, the time, and
random names.
-/

namespace Cadastre

/-- Why the system could not do something with a file. -/
structure SystemFault where
  /-- Whether that is because there is no such file. -/
  missing : Bool
  reason : String
  deriving DecidableEq, Repr

/-- A file as its directory lists it; directories in it are listed too. -/
structure DirectoryEntry where
  name : String
  size : UInt64
  deriving DecidableEq, Repr

inductive PathKind where
  | file
  | directory
  deriving DecidableEq, Repr

/-- The body of a request: plain bytes, or one file of a form. -/
inductive HttpBody where
  | bytes (payload : Bytes)
  | form (part fileName : String) (payload : Bytes)
  deriving DecidableEq, Repr

structure HttpRequest where
  url : String
  headers : List (String × String)
  body : HttpBody
  deriving DecidableEq, Repr

structure HttpResponse where
  status : Nat
  body : Bytes
  deriving DecidableEq, Repr

/-- What a request comes to: a response, or the reason why there is none. -/
abbrev HttpOutcome := Except String HttpResponse

structure PutRequest where
  endpoint : Option String
  region : String
  bucket : String
  key : String
  contentType : String
  payload : Bytes
  deriving DecidableEq, Repr

structure Moment where
  seconds : Int
  nanoseconds : Nat := 0
  deriving DecidableEq, Repr

namespace Machine

inductive Call where
  | readFile (path : String)
  /-- Writes the file where it is, in a directory that is there. -/
  | writeFile (path : String) (contents : Bytes)
  /-- Replaces the file as a whole by a draft that is written first, and creates the directories
  above it. -/
  | replaceFile (path : String) (contents : Bytes)
  | kindOf (path : String)
  | listDirectory (path : String)
  /-- Creates the directory and those above it; the answer is its absolute path. -/
  | createDirectory (path : String)
  | post (request : HttpRequest)
  | putObject (request : PutRequest)
  | pause (seconds : Nat)
  | now
  /-- Thirty-two random hexadecimal digits. -/
  | freshId

def Answer : Call → Type
  | .readFile _ => Except SystemFault Bytes
  | .writeFile _ _ => Except SystemFault Unit
  | .replaceFile _ _ => Except SystemFault Unit
  | .kindOf _ => Except SystemFault (Option PathKind)
  | .listDirectory _ => Except SystemFault (List DirectoryEntry)
  | .createDirectory _ => Except SystemFault String
  | .post _ => HttpOutcome
  | .putObject _ => Except String Unit
  | .pause _ => Unit
  | .now => Moment
  | .freshId => String

end Machine

def Machine : Signature := ⟨Machine.Call, Machine.Answer⟩

namespace Machine

def readFile (path : String) : Job Machine (Except SystemFault Bytes) :=
  Job.ask (S := Machine) (.readFile path)

def writeFile (path : String) (contents : Bytes) : Job Machine (Except SystemFault Unit) :=
  Job.ask (S := Machine) (.writeFile path contents)

def replaceFile (path : String) (contents : Bytes) : Job Machine (Except SystemFault Unit) :=
  Job.ask (S := Machine) (.replaceFile path contents)

def kindOf (path : String) : Job Machine (Except SystemFault (Option PathKind)) :=
  Job.ask (S := Machine) (.kindOf path)

def listDirectory (path : String) : Job Machine (Except SystemFault (List DirectoryEntry)) :=
  Job.ask (S := Machine) (.listDirectory path)

def createDirectory (path : String) : Job Machine (Except SystemFault String) :=
  Job.ask (S := Machine) (.createDirectory path)

def post (request : HttpRequest) : Job Machine HttpOutcome :=
  Job.ask (S := Machine) (.post request)

def putObject (request : PutRequest) : Job Machine (Except String Unit) :=
  Job.ask (S := Machine) (.putObject request)

def pause (seconds : Nat) : Job Machine Unit :=
  Job.ask (S := Machine) (.pause seconds)

def now : Job Machine Moment :=
  Job.ask (S := Machine) .now

def freshId : Job Machine String :=
  Job.ask (S := Machine) .freshId

/-- The contents of a file that may not be there. -/
def readIfPresent (path : String) : Job Machine (Except String (Option Bytes)) := do
  match ← readFile path with
  | .ok contents => pure (.ok (some contents))
  | .error fault => pure (if fault.missing then .ok none else .error fault.reason)

end Machine

end Cadastre
