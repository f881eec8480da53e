import TokenGate.Text.Basic

/-!
# Parts of a message

Status codes and header fields.
-/

namespace TokenGate.Http.Status

def isSuccess (status : Nat) : Bool := 200 ≤ status && status < 300

def isValid (status : Nat) : Bool := 100 ≤ status && status < 1000

/-- Answers with these statuses end with the head. -/
def isBodiless (status : Nat) : Bool := status < 200 || status == 204 || status == 304

/-- Of the statuses that begin with a three, only these name a place to go on to. -/
def isRedirect (status : Nat) : Bool := [301, 302, 303, 307, 308].contains status

def reasons : List (Nat × String) :=
  [(100, "Continue"), (101, "Switching Protocols"), (102, "Processing"), (103, "Early Hints"),
    (200, "OK"), (201, "Created"),
    (202, "Accepted"), (203, "Non Authoritative Information"), (204, "No Content"),
    (205, "Reset Content"), (206, "Partial Content"), (207, "Multi-Status"),
    (208, "Already Reported"), (226, "IM Used"), (300, "Multiple Choices"),
    (301, "Moved Permanently"), (302, "Found"), (303, "See Other"), (304, "Not Modified"),
    (305, "Use Proxy"), (307, "Temporary Redirect"), (308, "Permanent Redirect"),
    (400, "Bad Request"), (401, "Unauthorized"), (402, "Payment Required"), (403, "Forbidden"),
    (404, "Not Found"), (405, "Method Not Allowed"), (406, "Not Acceptable"),
    (407, "Proxy Authentication Required"), (408, "Request Timeout"), (409, "Conflict"),
    (410, "Gone"), (411, "Length Required"), (412, "Precondition Failed"),
    (413, "Payload Too Large"), (414, "URI Too Long"), (415, "Unsupported Media Type"),
    (416, "Range Not Satisfiable"), (417, "Expectation Failed"), (418, "I'm a teapot"),
    (421, "Misdirected Request"), (422, "Unprocessable Entity"), (423, "Locked"),
    (424, "Failed Dependency"), (425, "Too Early"), (426, "Upgrade Required"), (428, "Precondition Required"),
    (429, "Too Many Requests"), (431, "Request Header Fields Too Large"),
    (451, "Unavailable For Legal Reasons"), (500, "Internal Server Error"),
    (501, "Not Implemented"), (502, "Bad Gateway"), (503, "Service Unavailable"),
    (504, "Gateway Timeout"), (505, "HTTP Version Not Supported"),
    (506, "Variant Also Negotiates"), (507, "Insufficient Storage"), (508, "Loop Detected"),
    (510, "Not Extended"), (511, "Network Authentication Required")]

def text (status : Nat) : String :=
  toString status ++ " " ++ (reasons.lookup status).getD "<unknown status code>"

end TokenGate.Http.Status

/-!
## Header fields

Fields in the order in which they were sent. Names are compared without regard to case.
-/

namespace TokenGate.Http

/-- A name may stand there more than once. -/
abbrev Fields := List (String × String)

namespace Fields

/-- The first value of a name. What later fields of that name say is not heard. -/
def first? (fields : Fields) (name : String) : Option String :=
  (fields.find? fun f => Text.sameIgnoringCase f.1.toList name.toList).map (·.2)

def isVisible (c : Char) : Bool := (32 ≤ c.toNat && c.toNat < 127) || c == '\t'

/-- A value that consists of visible ASCII, blanks and tabs. Other values cannot be read as text. -/
def visible? (value : String) : Option (List Char) :=
  if value.toList.all isVisible then some value.toList else none

end Fields

end TokenGate.Http
