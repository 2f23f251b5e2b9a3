import Questionnaire.Failure
import Questionnaire.Submission
import Questionnaire.Web.Address

/-!
# Posting submissions

A submission goes to an address on the web as the body of a request, and the status that comes back says whether
it was taken. `Endpoint.request?` is the request, `outcome` what its reply means.
-/

namespace Questionnaire

/-- Where submissions are posted, and the token that opens the door. -/
structure Endpoint where
  address : Web.Address
  token : Option String := none

/-- A request that posts something. Its headers have names in lower case. -/
structure Request where
  path : String
  headers : List (String × String)
  body : Json

structure Reply where
  status : Nat
  body : String

namespace Endpoint

/-- How the place is called in messages. -/
def name : String := "http"

/-- The character can stand in a header. -/
def isHeaderChar (c : Char) : Bool := c == '\t' || (0x20 ≤ c.toNat && c.toNat ≠ 0x7f)

/-- What is asked for with a path and, perhaps, a query. -/
def target (a : Web.Address) : String :=
  a.path ++ (match a.query with
    | some q => "?" ++ q
    | none => "")

/-- The request that posts a submission. There is none with a token that no header can hold. -/
def request? (e : Endpoint) (s : Submission) : Option Request :=
  match e.token with
  | none => some ⟨target e.address, headers, s.toJson⟩
  | some token =>
    if token.toList.all isHeaderChar then
      some ⟨target e.address, headers ++ [("authorization", "Bearer " ++ token)], s.toJson⟩
    else none
where
  headers : List (String × String) := [("accept", "application/json"), ("content-type", "application/json")]

end Endpoint

namespace Reply

/-- The reasons that go with statuses. -/
def reasons : List (Nat × String) :=
  [(100, "Continue"), (101, "Switching Protocols"), (102, "Processing"), (200, "OK"), (201, "Created"),
   (202, "Accepted"), (203, "Non Authoritative Information"), (204, "No Content"), (205, "Reset Content"),
   (206, "Partial Content"), (207, "Multi-Status"), (208, "Already Reported"), (226, "IM Used"),
   (300, "Multiple Choices"), (301, "Moved Permanently"), (302, "Found"), (303, "See Other"),
   (304, "Not Modified"), (305, "Use Proxy"), (307, "Temporary Redirect"), (308, "Permanent Redirect"),
   (400, "Bad Request"), (401, "Unauthorized"), (402, "Payment Required"), (403, "Forbidden"), (404, "Not Found"),
   (405, "Method Not Allowed"), (406, "Not Acceptable"), (407, "Proxy Authentication Required"),
   (408, "Request Timeout"), (409, "Conflict"), (410, "Gone"), (411, "Length Required"),
   (412, "Precondition Failed"), (413, "Payload Too Large"), (414, "URI Too Long"),
   (415, "Unsupported Media Type"), (416, "Range Not Satisfiable"), (417, "Expectation Failed"),
   (418, "I'm a teapot"), (421, "Misdirected Request"), (422, "Unprocessable Entity"), (423, "Locked"),
   (424, "Failed Dependency"), (426, "Upgrade Required"), (428, "Precondition Required"),
   (429, "Too Many Requests"), (431, "Request Header Fields Too Large"), (451, "Unavailable For Legal Reasons"),
   (500, "Internal Server Error"), (501, "Not Implemented"), (502, "Bad Gateway"), (503, "Service Unavailable"),
   (504, "Gateway Timeout"), (505, "HTTP Version Not Supported"), (506, "Variant Also Negotiates"),
   (507, "Insufficient Storage"), (508, "Loop Detected"), (510, "Not Extended"),
   (511, "Network Authentication Required")]

def isSuccess (r : Reply) : Bool := 200 ≤ r.status && r.status < 300

/-- The status in words, whatever the other side called it. -/
def describe (r : Reply) : String :=
  toString r.status ++ " "
    ++ (((reasons.find? fun e => e.1 == r.status).map Prod.snd).getD "<unknown status code>")

/-- What became of a submission, by the reply to its request. Without a reply, it went nowhere. -/
def outcome : Option Reply → Except Failure Unit
  | none => .error .http
  | some r =>
    if r.isSuccess then .ok () else .error (.submission Endpoint.name (r.describe ++ " " ++ r.body))

end Reply

end Questionnaire
