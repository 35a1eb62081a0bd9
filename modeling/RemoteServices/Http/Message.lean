/-!
# Requests and responses

The part of HTTP messages that matters here: bodies are opaque bytes, and of the headers only two
are ever set.

The statuses of calls are the program's own; the responses that refuse a request restate the library
`axum`, and `reasonPhrase` the phrases that its client knows.
-/
namespace RemoteServices.Http

abbrev Payload := ByteArray

structure Request where
  method : String
  /-- A path, perhaps with a query and a fragment, perhaps after a scheme and an authority. -/
  target : String
  body : Payload

structure Response where
  status : UInt16
  contentType : Option String
  /-- The methods that the target takes, when the request had another. -/
  allow : Option String
  body : Payload

namespace Response

def bare (status : UInt16) : Response := ⟨status, none, none, .empty⟩

def plain (status : UInt16) (message : String) : Response :=
  ⟨status, some "text/plain; charset=utf-8", none, message.toUTF8⟩

def notFound : Response := bare 404

def ofReply : Option Payload → Response
  | some reply => ⟨200, some "application/json", none, reply⟩
  | none => bare 200

def isSuccess (r : Response) : Bool := 200 ≤ r.status && r.status < 300

end Response

/-- The standard phrase of a status code, empty if the code has none. -/
def reasonPhrase (status : UInt16) : String :=
  match status.toNat with
  | 100 => "Continue"
  | 101 => "Switching Protocols"
  | 102 => "Processing"
  | 103 => "Early Hints"
  | 200 => "OK"
  | 201 => "Created"
  | 202 => "Accepted"
  | 203 => "Non Authoritative Information"
  | 204 => "No Content"
  | 205 => "Reset Content"
  | 206 => "Partial Content"
  | 207 => "Multi-Status"
  | 208 => "Already Reported"
  | 226 => "IM Used"
  | 300 => "Multiple Choices"
  | 301 => "Moved Permanently"
  | 302 => "Found"
  | 303 => "See Other"
  | 304 => "Not Modified"
  | 305 => "Use Proxy"
  | 307 => "Temporary Redirect"
  | 308 => "Permanent Redirect"
  | 400 => "Bad Request"
  | 401 => "Unauthorized"
  | 402 => "Payment Required"
  | 403 => "Forbidden"
  | 404 => "Not Found"
  | 405 => "Method Not Allowed"
  | 406 => "Not Acceptable"
  | 407 => "Proxy Authentication Required"
  | 408 => "Request Timeout"
  | 409 => "Conflict"
  | 410 => "Gone"
  | 411 => "Length Required"
  | 412 => "Precondition Failed"
  | 413 => "Payload Too Large"
  | 414 => "URI Too Long"
  | 415 => "Unsupported Media Type"
  | 416 => "Range Not Satisfiable"
  | 417 => "Expectation Failed"
  | 418 => "I'm a teapot"
  | 421 => "Misdirected Request"
  | 422 => "Unprocessable Entity"
  | 423 => "Locked"
  | 424 => "Failed Dependency"
  | 425 => "Too Early"
  | 426 => "Upgrade Required"
  | 428 => "Precondition Required"
  | 429 => "Too Many Requests"
  | 431 => "Request Header Fields Too Large"
  | 451 => "Unavailable For Legal Reasons"
  | 500 => "Internal Server Error"
  | 501 => "Not Implemented"
  | 502 => "Bad Gateway"
  | 503 => "Service Unavailable"
  | 504 => "Gateway Timeout"
  | 505 => "HTTP Version Not Supported"
  | 506 => "Variant Also Negotiates"
  | 507 => "Insufficient Storage"
  | 508 => "Loop Detected"
  | 510 => "Not Extended"
  | 511 => "Network Authentication Required"
  | _ => ""

end RemoteServices.Http
