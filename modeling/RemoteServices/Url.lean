import RemoteServices.Url.Host
import RemoteServices.Url.Path

/-!
# URLs of the scheme `http`

`Url.read` takes apart the text after `http:`.  Tabs and line ends in it do not count, a backslash
is as good as a slash, and any number of them may precede the authority.  Nothing is refused but a
host or a port that cannot be one; other characters out of place are percent-encoded.

The program leaves URLs to the library `url`; this module and those below `Url` restate what that
library does, and nothing in them is the program's own.
-/
namespace RemoteServices

structure Url where
  userinfo : Option (List Char)
  host : Url.Host
  /-- The port; none for the usual one. -/
  port : Option UInt16
  path : List Url.Segment
  query : Option (List Char)
  fragment : Option (List Char)
deriving DecidableEq

namespace Url

def defaultPort : UInt16 := 80

def isIgnored (c : Char) : Bool := c == '\t' || c == '\n' || c == '\x0d'

def isSlash (c : Char) : Bool := c == '/' || c == '\\'

def endsAuthority (c : Char) : Bool := isSlash c || c == '?' || c == '#'

/-- The text before the last occurrence of `c`, if there is one, and the text after it. -/
def splitLast (c : Char) (cs : List Char) : Option (List Char) × List Char :=
  let back := cs.reverse
  match back.dropWhile (· != c) with
  | [] => (none, cs)
  | _ :: front => (some front.reverse, (back.takeWhile (· != c)).reverse)

/-- The text before the first `c`, and the text after it, if there is one. -/
def splitFirst (c : Char) (cs : List Char) : List Char × Option (List Char) :=
  match cs.dropWhile (· != c) with
  | [] => (cs, none)
  | _ :: back => (cs.takeWhile (· != c), some back)

/-- The user's name and password; neither is written when it is empty. -/
def readUserinfo (cs : List Char) : Option (List Char) :=
  match splitFirst ':' cs with
  | ([], none) => none
  | ([], some []) => none
  | (name, some (c :: password)) =>
    some (encode reservedInUserinfo name ++ ':' :: encode reservedInUserinfo (c :: password))
  | (name, _) => some (encode reservedInUserinfo name)

/-- The host's text, up to a colon outside brackets, and the port's text after the colon. -/
def splitPort (bracketed : Bool) : List Char → List Char × Option (List Char)
  | [] => ([], none)
  | c :: cs =>
    if c = ':' ∧ ¬ bracketed then ([], some cs)
    else
      let bracketed := if c = '[' then true else if c = ']' then false else bracketed
      ((splitPort bracketed cs).1.cons c, (splitPort bracketed cs).2)

/-- The port that a text names; an empty text names the usual one. -/
def readPort (cs : List Char) : Except Fault (Option UInt16) :=
  match cs with
  | [] => .ok none
  | '+' :: _ => .error .invalidPort
  | cs =>
    match Text.readUInt16 cs with
    | .ok n => .ok (if n = defaultPort then none else some n)
    | .error _ => .error .invalidPort

def pathSegments (cs : List Char) : List Segment :=
  let cs := match cs with
    | c :: cs => if isSlash c then cs else c :: cs
    | [] => []
  (Text.pieces '/' (cs.map fun c => if isSlash c then '/' else c)).map (encode reservedInPath)

def read (cs : List Char) : Except Fault Url := do
  let cs := (cs.filter (! isIgnored ·)).dropWhile isSlash
  let (userinfo, server) := splitLast '@' (cs.takeWhile (! endsAuthority ·))
  let (host, port) := splitPort false server
  let host ← Host.ofChars host
  let port ← readPort (port.getD [])
  let (beforeFragment, fragment) := splitFirst '#' (cs.dropWhile (! endsAuthority ·))
  let (path, query) := splitFirst '?' beforeFragment
  return {
    userinfo := userinfo.bind readUserinfo
    host
    port
    path := resolve (pathSegments path)
    query := query.map (encode reservedInQuery)
    fragment := fragment.map (encode reservedInFragment) }

def renderTail (u : Url) : List Char :=
  (match u.query with
    | some q => '?' :: q
    | none => []) ++
  (match u.fragment with
    | some f => '#' :: f
    | none => [])

def render (u : Url) : String :=
  let userinfo := match u.userinfo with
    | some i => i ++ ['@']
    | none => []
  let port := match u.port with
    | some n => ':' :: (toString n.toNat).toList
    | none => []
  .ofList ("http://".toList ++ userinfo ++ u.host.render ++ port ++
    renderPath u.path ++ u.renderTail)

def withPath (u : Url) (texts : List (List Char)) : Url :=
  { u with path := texts.foldl push [] }

end Url

end RemoteServices
