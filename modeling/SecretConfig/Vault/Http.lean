import SecretConfig.Secret
import SecretConfig.Url

set_option autoImplicit false

/-! # Requests and exchanges

What goes over the network and what comes back. An exchange fails before an answer is there,
or there is an answer with a status, of whose body the transport may lose a part. What the
transport and the reader of JSON report of a failure is theirs to say, so it comes with the
network. -/

namespace SecretConfig.Vault

/-- The methods that are used. -/
inductive HttpMethod where
  | get
  | post
deriving DecidableEq, Repr, Inhabited

/-- The name of a method. -/
def HttpMethod.name : HttpMethod → String
  | get => "GET"
  | post => "POST"

/-- A request. -/
structure HttpRequest where
  method : HttpMethod
  url : Url
  /-- The token that the request is made with. -/
  token : Option String := none
  /-- The part of the store that the request is for. -/
  scope : Option String := none
  body : Option Json := none
deriving DecidableEq, Inhabited

/-- The body of an answer. -/
inductive ResponseBody where
  | complete (bytes : ByteArray)
  /-- The connection broke, or time ran out, before the end of the body. -/
  | broken (report : String)
deriving Inhabited

/-- What comes back for a request. -/
inductive Exchange where
  /-- The connection failed or broke before there was an answer. -/
  | failed (report : String)
  /-- Time ran out before there was an answer. -/
  | timedOut
  | answered (status : Nat) (body : ResponseBody)
deriving Inhabited

/-- A network answers every request. With it comes what the reader of JSON reports of a text or
a value that has not the shape which is asked for. -/
structure Network where
  answer : HttpRequest → Exchange
  /-- What is wrong with a body that is no envelope. -/
  bodyReport : ByteArray → String := fun _ => ""
  /-- What is wrong with data that tell nothing about a token. -/
  dataReport : Json → String := fun _ => ""

instance : CoeFun Network fun _ => HttpRequest → Exchange := ⟨Network.answer⟩

/-- The network in which no host can be reached. -/
def unreachable (report : String) : Network := { answer := fun _ => .failed report }

/-- The reasons that the statuses stand for. -/
def reasons : List (Nat × String) :=
  [(100, "Continue"), (101, "Switching Protocols"), (102, "Processing"), (103, "Early Hints"),
   (200, "OK"), (201, "Created"), (202, "Accepted"),
   (203, "Non Authoritative Information"), (204, "No Content"), (205, "Reset Content"),
   (206, "Partial Content"), (207, "Multi-Status"), (208, "Already Reported"), (226, "IM Used"),
   (300, "Multiple Choices"), (301, "Moved Permanently"), (302, "Found"), (303, "See Other"),
   (304, "Not Modified"), (305, "Use Proxy"), (307, "Temporary Redirect"),
   (308, "Permanent Redirect"), (400, "Bad Request"), (401, "Unauthorized"),
   (402, "Payment Required"), (403, "Forbidden"), (404, "Not Found"),
   (405, "Method Not Allowed"), (406, "Not Acceptable"),
   (407, "Proxy Authentication Required"), (408, "Request Timeout"), (409, "Conflict"),
   (410, "Gone"), (411, "Length Required"), (412, "Precondition Failed"),
   (413, "Payload Too Large"), (414, "URI Too Long"), (415, "Unsupported Media Type"),
   (416, "Range Not Satisfiable"), (417, "Expectation Failed"), (418, "I'm a teapot"),
   (421, "Misdirected Request"), (422, "Unprocessable Entity"), (423, "Locked"),
   (424, "Failed Dependency"), (425, "Too Early"), (426, "Upgrade Required"),
   (428, "Precondition Required"), (429, "Too Many Requests"),
   (431, "Request Header Fields Too Large"), (451, "Unavailable For Legal Reasons"),
   (500, "Internal Server Error"), (501, "Not Implemented"), (502, "Bad Gateway"),
   (503, "Service Unavailable"), (504, "Gateway Timeout"), (505, "HTTP Version Not Supported"),
   (506, "Variant Also Negotiates"), (507, "Insufficient Storage"), (508, "Loop Detected"),
   (510, "Not Extended"), (511, "Network Authentication Required")]

/-- The text of a status. -/
def statusText (status : Nat) : String :=
  toString status ++ " " ++ (reasons.lookup status).getD "<unknown status code>"

/-- The status says that the request succeeded. -/
def isSuccess (status : Nat) : Bool := 200 ≤ status && status < 300

/-- The status says that the server failed. -/
def isServerError (status : Nat) : Bool := 500 ≤ status && status < 600

end SecretConfig.Vault
