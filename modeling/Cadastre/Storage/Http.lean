import Cadastre.Machine.Basic
import Cadastre.Storage.Fault
import Cadastre.Text.Blank

/-!
Requests over a network that may fail for a while: they are tried again after transport errors and
server errors, up to a number of times, with pauses that double.
-/

namespace Cadastre.Http

def isServerError (response : HttpResponse) : Bool :=
  500 ≤ response.status && response.status < 600

def isSuccess (response : HttpResponse) : Bool :=
  200 ≤ response.status && response.status < 300

def isTransient : HttpOutcome → Bool
  | .ok response => isServerError response
  | .error _ => true

/-- Posts the request, and again after each transient outcome, at most `retries` more times. The
pause before the next try is `delay` seconds, then twice that. -/
def postFrom (request : HttpRequest) (delay : Nat) : Nat → Job Machine HttpOutcome
  | 0 => Machine.post request
  | retries + 1 => do
    let outcome ← Machine.post request
    if isTransient outcome then do
      Machine.pause delay
      postFrom request (2 * delay) retries
    else pure outcome

def defaultRetries : Nat := 3

def post (retries : Nat) (request : HttpRequest) : Job Machine HttpOutcome :=
  postFrom request 1 retries

def reasonPhrases : List (Nat × String) :=
  [(100, "Continue"), (101, "Switching Protocols"), (102, "Processing"), (103, "Early Hints"),
    (200, "OK"), (201, "Created"), (202, "Accepted"), (203, "Non Authoritative Information"),
    (204, "No Content"), (205, "Reset Content"), (206, "Partial Content"), (207, "Multi-Status"),
    (208, "Already Reported"), (226, "IM Used"), (300, "Multiple Choices"),
    (301, "Moved Permanently"), (302, "Found"), (303, "See Other"), (304, "Not Modified"),
    (305, "Use Proxy"), (307, "Temporary Redirect"), (308, "Permanent Redirect"),
    (400, "Bad Request"), (401, "Unauthorized"), (402, "Payment Required"), (403, "Forbidden"),
    (404, "Not Found"), (405, "Method Not Allowed"), (406, "Not Acceptable"),
    (407, "Proxy Authentication Required"), (408, "Request Timeout"), (409, "Conflict"),
    (410, "Gone"), (411, "Length Required"), (412, "Precondition Failed"),
    (413, "Payload Too Large"), (414, "URI Too Long"), (415, "Unsupported Media Type"),
    (416, "Range Not Satisfiable"), (417, "Expectation Failed"), (418, "I'm a teapot"),
    (421, "Misdirected Request"), (422, "Unprocessable Entity"), (423, "Locked"),
    (424, "Failed Dependency"), (425, "Too Early"), (426, "Upgrade Required"),
    (428, "Precondition Required"), (429, "Too Many Requests"),
    (431, "Request Header Fields Too Large"), (451, "Unavailable For Legal Reasons"),
    (500, "Internal Server Error"), (501, "Not Implemented"), (502, "Bad Gateway"),
    (503, "Service Unavailable"), (504, "Gateway Timeout"), (505, "HTTP Version Not Supported"),
    (506, "Variant Also Negotiates"), (507, "Insufficient Storage"), (508, "Loop Detected"),
    (510, "Not Extended"), (511, "Network Authentication Required")]

def statusText (status : Nat) : String :=
  s!"{status} " ++ (reasonPhrases.lookup status).getD "<unknown status code>"

/-- The response of a provider that answered well, or the provider's error with what it said. -/
def checked (provider : String) (outcome : HttpOutcome) : Except StorageFault HttpResponse :=
  match outcome with
  | .error reason => .error (.http reason)
  | .ok response =>
    if isSuccess response then .ok response
    else
      .error (.provider
        s!"{provider} returned {statusText response.status}: {Text.trim (Text.lossy response.body)}")

end Cadastre.Http
