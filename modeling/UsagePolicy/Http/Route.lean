import UsagePolicy.Http.Message
import UsagePolicy.Text.Hex
import UsagePolicy.Text.Split

/-!
# Routes

A path leads to an endpoint if its segments are those of the endpoint's pattern, in which one
segment may be a parameter. The patterns are tried in order. A path that leads nowhere, but
would do so with a slash added or removed at its end, is redirected. The pages on which the web
framework documents the endpoints are left out.
-/
namespace UsagePolicy
namespace Http

inductive Endpoint where
  | listDatasets
  | getDataset
  | listPolicyTypes
  | generate
  | generateForDataset
  | savePolicy
  | listPolicies
  | deletePolicy
  deriving DecidableEq, Repr

/-- A segment of a pattern. -/
inductive Segment where
  | literal (text : String)
  | parameter
  deriving DecidableEq, Repr

structure Route where
  method : String
  pattern : List Segment
  endpoint : Endpoint
  deriving DecidableEq, Repr

def routes : List Route :=
  [⟨"GET", [.literal "datasets"], .listDatasets⟩,
    ⟨"GET", [.literal "datasets", .parameter], .getDataset⟩,
    ⟨"GET", [.literal "policies", .literal "types"], .listPolicyTypes⟩,
    ⟨"POST", [.literal "policies", .literal "generate"], .generate⟩,
    ⟨"POST", [.literal "policies", .literal "generate", .parameter], .generateForDataset⟩,
    ⟨"POST", [.literal "policies"], .savePolicy⟩,
    ⟨"GET", [.literal "policies", .literal "by-dataset", .parameter], .listPolicies⟩,
    ⟨"DELETE", [.literal "policies", .parameter], .deletePolicy⟩]

def segments? (path : String) : Option (List String) :=
  match path.toList with
  | '/' :: rest => some ((Text.split '/' rest).map String.ofList)
  | _ => none

/-- The argument that a path gives to a pattern, which is empty if the pattern takes none. After
a literal at the end one line break is tolerated. -/
def argument? : List Segment → List String → Option String
  | [.literal text], [segment] => if segment = text || segment = text ++ "\n" then some "" else none
  | [.parameter], [segment] => if segment = "" then none else some segment
  | .literal text :: pattern, segment :: rest =>
    if segment = text then argument? pattern rest else none
  | _, _ => none

def Route.argument? (route : Route) (path : String) : Option String :=
  (segments? path).bind (Http.argument? route.pattern)

/-- Where a request leads. -/
inductive Destination where
  | endpoint (endpoint : Endpoint) (argument : String)
  | otherMethod (allowed : String)
  | nowhere
  deriving DecidableEq, Repr

/-- The first route for path and method, else the first one for the path. -/
def destination (method path : String) : Destination :=
  let candidates := routes.filterMap fun route =>
    (route.argument? path).map fun argument => (route, argument)
  match candidates.find? (·.1.method == method), candidates with
  | some (route, argument), _ => .endpoint route.endpoint argument
  | none, (route, _) :: _ => .otherMethod route.method
  | none, [] => .nowhere

/-- The path with the slashes at its end removed, or with one added if it has none. -/
def toggleSlash (path : String) : String :=
  let cs := path.toList
  if cs.getLast? = some '/' then String.ofList (cs.reverse.dropWhile (· == '/')).reverse
  else path ++ "/"

def redirectPath? (path : String) : Option String :=
  let other := toggleSlash path
  if path = "/" then none
  else if routes.any fun route => (route.argument? other).isSome then some other
  else none

/-- The characters of a location that stand for themselves. -/
def isLocationChar (c : Char) : Bool :=
  c.isAlphanum || "_.-~:/%#?=@[]!$&'()*+,;".toList.contains c

/-- A location with every other character as the escapes of its bytes. -/
def encodeLocation (location : String) : String :=
  String.ofList (location.toList.flatMap fun c =>
    if isLocationChar c then [c]
    else (String.singleton c).toUTF8.toList.flatMap fun b =>
      '%' :: (Text.hexPadded 2 b.toNat).map Char.toUpper)

/-- A path in which a number sign does not start a fragment. -/
def escapeFragments (path : String) : String :=
  String.ofList (path.toList.flatMap fun c => if c = '#' then "%23".toList else [c])

/-- The redirection of a request to another path of the host that it names. -/
def redirect (request : Request) (path : String) : Response :=
  let host := ((request.header? "host").map ("http://" ++ ·)).getD ""
  let query := if request.query = "" then "" else "?" ++ request.query
  ⟨307, [("location", encodeLocation (host ++ escapeFragments path ++ query))], ""⟩

end Http
end UsagePolicy
