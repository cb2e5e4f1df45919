import UpgradeGraph.Entries
import UpgradeGraph.Json.Decode
import UpgradeGraph.Web.Url

/-!
# Replies

What comes back from a request: a status with headers and a body, or nothing, if the
server cannot be reached or closes the connection. `Web` is the web as it stands at one
time, a reply for every address.
-/

namespace UpgradeGraph

/-- An answer of a server. -/
structure Response where
  status : Nat
  headers : List (Text × Text)
  body : Text
deriving DecidableEq, Repr

/-- What comes back from a request. -/
inductive Reply where
  | response (r : Response)
  /-- There is no answer. -/
  | silence
deriving DecidableEq, Repr

/-- A reply for every address. -/
abbrev Web := Url → Reply

/-- Two names of headers are the same, whatever their capitals. -/
def sameHeader (a b : Text) : Bool := a.map Char.toLower = b.map Char.toLower

namespace Response

/-- The value of a header; spaces and tabs around it do not count. -/
def headerValue (s : Text) : Text :=
  let isEdge (c : Char) : Bool := c = ' ' || c = '\t'
  ((s.dropWhile isEdge).reverse.dropWhile isEdge).reverse

/-- The value of the first header with a name. -/
def header? (r : Response) (name : Text) : Option Text :=
  (r.headers.find? fun h => sameHeader h.1 name).map fun h => headerValue h.2

/-- The status says that the body is what was asked for. -/
def isSuccess (r : Response) : Bool := 200 ≤ r.status && r.status < 300

end Response

/-- What the registered status codes mean. -/
def reasonPhrases : List (Nat × String) := [
  (100, "Continue"), (101, "Switching Protocols"), (102, "Processing"),
  (103, "Early Hints"),
  (200, "OK"), (201, "Created"), (202, "Accepted"), (203, "Non Authoritative Information"),
  (204, "No Content"), (205, "Reset Content"), (206, "Partial Content"),
  (207, "Multi-Status"), (208, "Already Reported"), (226, "IM Used"),
  (300, "Multiple Choices"), (301, "Moved Permanently"), (302, "Found"), (303, "See Other"),
  (304, "Not Modified"), (305, "Use Proxy"), (307, "Temporary Redirect"),
  (308, "Permanent Redirect"),
  (400, "Bad Request"), (401, "Unauthorized"), (402, "Payment Required"), (403, "Forbidden"),
  (404, "Not Found"), (405, "Method Not Allowed"), (406, "Not Acceptable"),
  (407, "Proxy Authentication Required"), (408, "Request Timeout"), (409, "Conflict"),
  (410, "Gone"), (411, "Length Required"), (412, "Precondition Failed"),
  (413, "Payload Too Large"), (414, "URI Too Long"), (415, "Unsupported Media Type"),
  (416, "Range Not Satisfiable"), (417, "Expectation Failed"), (418, "I'm a teapot"),
  (421, "Misdirected Request"), (422, "Unprocessable Entity"), (423, "Locked"),
  (424, "Failed Dependency"), (425, "Too Early"), (426, "Upgrade Required"),
  (428, "Precondition Required"), (429, "Too Many Requests"),
  (431, "Request Header Fields Too Large"), (451, "Unavailable For Legal Reasons"),
  (500, "Internal Server Error"), (501, "Not Implemented"), (502, "Bad Gateway"),
  (503, "Service Unavailable"), (504, "Gateway Timeout"), (505, "HTTP Version Not Supported"),
  (506, "Variant Also Negotiates"), (507, "Insufficient Storage"), (508, "Loop Detected"),
  (510, "Not Extended"), (511, "Network Authentication Required")]

/-- What a status code means. -/
def reasonPhrase (status : Nat) : Text :=
  ((reasonPhrases.lookup status).getD "<unknown status code>").toList

end UpgradeGraph

/-! ## Recordings

Replies that were recorded beforehand, as a JSON object from addresses to replies. A
reply is either a body alone, which came with status 200, or a record of the status, the
headers and the body. What was not recorded is not answered. -/

namespace UpgradeGraph.Recording

open Json (Decoder)

/-- Takes a response out of JSON. -/
def responseDecoder : Decoder Response :=
  .record ["status", "headers", "body"] fun fields => do
    return {
      status := ← fields.withDefault 0 (.natural 1000) 200
      headers := ← fields.withDefault 1 (.entries .text) []
      body := ← fields.withDefault 2 .text [] }

/-- Takes a reply out of JSON. -/
def replyDecoder : Decoder Response := fun depth tree =>
  match Decoder.text depth tree with
  | some body => some { status := 200, headers := [], body }
  | none => responseDecoder depth tree

/-- The web that was recorded. -/
def web (recorded : Entries Response) : Web := fun url =>
  match recorded.get? url.display with
  | some r => .response r
  | none => .silence

/-- Reads a recording. -/
def read? (s : Text) : Option Web := (Json.decode (.entries replyDecoder) s).map web

end UpgradeGraph.Recording
