import RemoteServices.Endpoint
import RemoteServices.Http.Message
import RemoteServices.Text.Search
import RemoteServices.Url.Percent

/-!
# Serving calls

A call is a `POST` to `/service/number/interface`.  The path is taken apart as it stands, and only
then are its two variable segments percent-decoded.  A request for anything else is answered without
any handler.

The route and `find` are the program's own.  The library `axum` routes and answers: `maxBodySize`,
`pathOf`, `captures?`, `decodeSegment`, and in `dispatch` the order of the refusals and their texts,
restate what it does.
-/
namespace RemoteServices.Http

def maxBodySize : Nat := 2097152

/-- The path of a target: without scheme and authority, query and fragment. -/
def pathOf (target : List Char) : List Char :=
  let target := match target with
    | '/' :: cs => '/' :: cs
    | cs =>
      ((Text.afterFirst "://".toList cs).getD []).dropWhile fun c =>
        c != '/' && c != '?' && c != '#'
  target.takeWhile fun c => c != '?' && c != '#'

/-- The two variable segments of the path of a call.  An empty segment matches unless it is the
last: `/service//A` has a route, on which a call is refused for its number, and `/service/7/` has
none. -/
def captures? (path : List Char) : Option (List Char × List Char) :=
  match Text.pieces '/' path with
  | [[], service, number, interface] =>
    if service = "service".toList ∧ interface ≠ [] then some (number, interface) else none
  | _ => none

def decodeSegment (name : String) (cs : List Char) : Except Response String :=
  match Url.textOf? (Url.decode cs) with
  | some s => .ok s
  | none => .error (.plain 400 ("Invalid URL: Invalid UTF-8 in `" ++ name ++ "`"))

variable {Handler : Type}

def dispatch (find : ServiceId → String → Option Handler) (q : Request) :
    Except Response Handler := do
  let some (number, interface) := captures? (pathOf q.target.toList) | throw .notFound
  if q.method ≠ "POST" then throw { Response.bare 405 with allow := some "POST" }
  let number ← decodeSegment "service_id" number
  let interface ← decodeSegment "interface" interface
  if maxBodySize < q.body.size then
    throw (.plain 413 "Failed to buffer the request body: length limit exceeded")
  let .ok serviceId := Text.readInt64 number.toList | throw .notFound
  let some handler := find serviceId interface | throw .notFound
  return handler

/-- The response to a request, where `handle` runs a handler on the body of a call. -/
def serve {m : Type → Type} [Monad m] (find : ServiceId → String → Option Handler)
    (handle : Handler → Payload → m (Option Payload)) (q : Request) : m Response :=
  match dispatch find q with
  | .ok handler => return .ofReply (← handle handler q.body)
  | .error response => return response

end RemoteServices.Http
