/-!
# Node errors

Why a node did not give an answer.
-/

namespace TaxLedger

inductive NodeError where
  /-- The node could not be reached or broke the connection off. -/
  | unreachable (url : String)
  /-- The node answered with a status that means no success. -/
  | status (url : String) (code : Nat) (body : String)
  /-- The answer is not what was asked for; the reason is missing where the answer is not of the
  right form at all. -/
  | malformed (url : String) (reason : Option String)
  deriving DecidableEq, Repr, Inhabited

def statusPhrase? (code : Nat) : Option String := statusPhrases.lookup code
where
  statusPhrases : List (Nat × String) := [
    (100, "Continue"), (101, "Switching Protocols"), (102, "Processing"), (103, "Early Hints"),
    (200, "OK"), (201, "Created"), (202, "Accepted"), (203, "Non Authoritative Information"),
    (204, "No Content"), (205, "Reset Content"), (206, "Partial Content"), (207, "Multi-Status"),
    (208, "Already Reported"), (226, "IM Used"), (300, "Multiple Choices"),
    (301, "Moved Permanently"), (302, "Found"), (303, "See Other"), (304, "Not Modified"),
    (305, "Use Proxy"), (307, "Temporary Redirect"), (308, "Permanent Redirect"),
    (400, "Bad Request"), (401, "Unauthorized"), (402, "Payment Required"), (403, "Forbidden"),
    (404, "Not Found"), (405, "Method Not Allowed"), (406, "Not Acceptable"),
    (407, "Proxy Authentication Required"), (408, "Request Timeout"), (409, "Conflict"),
    (410, "Gone"), (411, "Length Required"), (412, "Precondition Failed"),
    (413, "Payload Too Large"), (414, "URI Too Long"), (415, "Unsupported Media Type"),
    (416, "Range Not Satisfiable"), (417, "Expectation Failed"), (418, "I'm a teapot"),
    (421, "Misdirected Request"), (422, "Unprocessable Entity"), (423, "Locked"),
    (424, "Failed Dependency"), (425, "Too Early"), (426, "Upgrade Required"),
    (428, "Precondition Required"), (429, "Too Many Requests"),
    (431, "Request Header Fields Too Large"), (451, "Unavailable For Legal Reasons"),
    (500, "Internal Server Error"), (501, "Not Implemented"), (502, "Bad Gateway"),
    (503, "Service Unavailable"), (504, "Gateway Timeout"), (505, "HTTP Version Not Supported"),
    (506, "Variant Also Negotiates"), (507, "Insufficient Storage"), (508, "Loop Detected"),
    (510, "Not Extended"), (511, "Network Authentication Required")]

def renderStatus (code : Nat) : String :=
  toString code ++ " " ++ (statusPhrase? code).getD "<unknown status code>"

namespace NodeError

/-- Whether the same request may succeed later: the node was out of reach or in trouble. -/
def isTransient : NodeError → Bool
  | .unreachable _ => true
  | .status _ code _ => 500 ≤ code && code < 600
  | .malformed .. => false

def isNotFound : NodeError → Bool
  | .status _ code _ => code == 404
  | _ => false

def message : NodeError → String
  | .unreachable url => "request to " ++ url ++ " failed"
  | .status url code body => url ++ " returned " ++ renderStatus code ++ ": " ++ body
  | .malformed url (some reason) => "unexpected response from " ++ url ++ ": " ++ reason
  | .malformed url none => "unexpected response from " ++ url

end NodeError

end TaxLedger
