import ChainIndex.Json.Value
import ChainIndex.Task.Basic
import ChainIndex.Url.Basic

/-!
# ChainIndex.Http.Exchange

Requests to a node over HTTP and what comes back.

To a task, an exchange is one question: either nothing comes back, or a status and a body,
which may have ended before its announced length.
-/

namespace ChainIndex.Http

/-- A request. -/
inductive Request where
  /-- Asks for a resource, with a token if there is one. -/
  | get (url : Url) (token : Option String)
  /-- Sends a JSON value. -/
  | post (url : Url) (body : Json)

/-- What a node sends back. -/
structure Answer where
  status : Nat
  body : String
  /-- Whether the body has its announced length. -/
  complete : Bool

namespace Answer

/-- Whether the request was accepted. -/
def isSuccess (a : Answer) : Bool := 200 ≤ a.status && a.status < 300

/-- Whether the node failed. -/
def isServerError (a : Answer) : Bool := 500 ≤ a.status && a.status < 600

/-- The body as far as it can be read at all. -/
def text (a : Answer) : String := if a.complete then a.body else ""

end Answer

/-- Exchanges as questions; no answer means that the node was not reached. -/
def Exchange : Signature := ⟨Request, fun _ => Option Answer⟩

/-- Sends a request. -/
def send {σ : Type} (request : Request) : Task σ Exchange (Option Answer) :=
  Task.question (S := Exchange) request

/-- The usual reason given with a status. -/
def reason? (status : Nat) : Option String :=
  [(100, "Continue"), (101, "Switching Protocols"), (102, "Processing"), (103, "Early Hints"),
    (200, "OK"), (201, "Created"), (202, "Accepted"), (203, "Non Authoritative Information"),
    (204, "No Content"), (205, "Reset Content"), (206, "Partial Content"), (207, "Multi-Status"),
    (208, "Already Reported"), (226, "IM Used"),
    (300, "Multiple Choices"), (301, "Moved Permanently"), (302, "Found"), (303, "See Other"),
    (304, "Not Modified"), (305, "Use Proxy"), (307, "Temporary Redirect"),
    (308, "Permanent Redirect"),
    (400, "Bad Request"), (401, "Unauthorized"), (402, "Payment Required"), (403, "Forbidden"),
    (404, "Not Found"), (405, "Method Not Allowed"), (406, "Not Acceptable"),
    (407, "Proxy Authentication Required"), (408, "Request Timeout"), (409, "Conflict"),
    (410, "Gone"), (411, "Length Required"), (412, "Precondition Failed"),
    (413, "Payload Too Large"), (414, "URI Too Long"), (415, "Unsupported Media Type"),
    (416, "Range Not Satisfiable"), (417, "Expectation Failed"), (418, "I'm a teapot"),
    (421, "Misdirected Request"), (422, "Unprocessable Entity"), (423, "Locked"),
    (424, "Failed Dependency"), (425, "Too Early"), (426, "Upgrade Required"),
    (428, "Precondition Required"), (429, "Too Many Requests"),
    (431, "Request Header Fields Too Large"), (451, "Unavailable For Legal Reasons"),
    (500, "Internal Server Error"), (501, "Not Implemented"), (502, "Bad Gateway"),
    (503, "Service Unavailable"), (504, "Gateway Timeout"), (505, "HTTP Version Not Supported"),
    (506, "Variant Also Negotiates"), (507, "Insufficient Storage"), (508, "Loop Detected"),
    (510, "Not Extended"), (511, "Network Authentication Required")].lookup status

/-- The text of a status: its number and the usual reason. -/
def statusText (status : Nat) : String :=
  toString status ++ " " ++ (reason? status).getD "<unknown status code>"

/-- Whether a text can be the value of a header: of the ASCII control characters it may
hold only tabs. -/
def isHeaderValue (text : String) : Bool :=
  text.toList.all fun c => c = '\t' || (32 ≤ c.toNat && c.toNat ≠ 127)

end ChainIndex.Http
