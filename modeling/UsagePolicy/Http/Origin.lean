import UsagePolicy.Http.Message
import UsagePolicy.Text.Blank
import UsagePolicy.Text.Split

/-!
# Requests from other origins

The origins that may use the service are configured as a list separated by commas; an item `*`
admits all of them. A request from an origin may first be announced by a preflight request,
which is answered without regard to its path. Only an admitted origin is named in a response.
-/
namespace UsagePolicy
namespace Http

/-- The origins of a configured list: its items without blanks around them, empty ones left
out. -/
def originsOf (setting : String) : List String :=
  ((Text.split ',' setting.toList).map fun item =>
    String.ofList (Text.trim Text.isBlank item)).filter (· != "")

def anyOrigin : String := "*"

def admits (origins : List String) (origin : String) : Bool :=
  origins.contains anyOrigin || origins.contains origin

def crossOriginMethods : List String :=
  ["DELETE", "GET", "HEAD", "OPTIONS", "PATCH", "POST", "PUT", "QUERY"]

def grant (origins : List String) (origin : String) : List (String × String) :=
  ("access-control-allow-credentials", "true") ::
    if admits origins origin then [("access-control-allow-origin", origin)] else []

/-- The origin and the announced method of a preflight request. -/
def Request.preflight? (request : Request) : Option (String × String) :=
  match request.method, request.header? "origin",
      request.header? "access-control-request-method" with
  | "OPTIONS", some origin, some method => some (origin, method)
  | _, _, _ => none

/-- What an announced request may not do, in the order of report. -/
def objections (origins : List String) (request : Request) (origin method : String) :
    List String :=
  (if admits origins origin then [] else ["origin"]) ++
    (if crossOriginMethods.contains method then [] else ["method"]) ++
    (if (request.header? "access-control-request-private-network").isSome then
      ["private-network"] else [])

def preflight (origins : List String) (request : Request) (origin method : String) : Response :=
  let headers := grant origins origin ++
    [("access-control-allow-methods", ", ".intercalate crossOriginMethods),
      ("access-control-max-age", "600"),
      ("vary", "Origin, Access-Control-Request-Method, Access-Control-Request-Headers, " ++
        "Access-Control-Request-Private-Network")] ++
    match request.header? "access-control-request-headers" with
    | some names => [("access-control-allow-headers", names)]
    | none => []
  let answer := match objections origins request origin method with
    | [] => Response.plainText 200 "OK"
    | reasons => Response.plainText 400 ("Disallowed CORS " ++ ", ".intercalate reasons)
  { answer with headers := answer.headers ++ headers }

/-- A response with what the origin of its request has to know. -/
def decorate (origins : List String) (request : Request) (response : Response) : Response :=
  let response := response.withHeader "vary" "Origin"
  match request.header? "origin" with
  | some origin => { response with headers := response.headers ++ grant origins origin }
  | none => response

end Http
end UsagePolicy
