import UsagePolicy.Json.Printer
import UsagePolicy.Store.Failure

/-!
# Requests and responses

A request names a method and a decoded path, with the query apart. Header names are compared
without regard to case.
-/
namespace UsagePolicy
namespace Http

structure Request where
  method : String
  path : String
  query : String
  headers : List (String × String)
  body : String
  deriving DecidableEq, Repr

/-- The path and the query of a request's target: what stands before and after the first question
mark. -/
def splitTarget (target : String) : String × String :=
  let cs := target.toList
  (String.ofList (cs.takeWhile (· != '?')), String.ofList ((cs.dropWhile (· != '?')).drop 1))

/-- The value of the first header with a name, which is given in lower case. -/
def Request.header? (request : Request) (name : String) : Option String :=
  (request.headers.find? fun (key, _) => key.toLower == name).map (·.2)

structure Response where
  status : Nat
  headers : List (String × String)
  body : String
  deriving DecidableEq, Repr

namespace Response

def json (status : Nat) (v : Json) : Response :=
  ⟨status, [("content-type", "application/json")], v.compactText⟩

/-- A response with data of the catalog, the numbers in the terse form. -/
def data (v : Json) : Response :=
  ⟨200, [("content-type", "application/json")], v.terseText⟩

def plainText (status : Nat) (text : String) : Response :=
  ⟨status, [("content-type", "text/plain; charset=utf-8")], text⟩

/-- A response that says no more than why the request was turned down. -/
def detail (status : Nat) (reason : String) : Response :=
  json status (.obj [("detail", .str reason)])

def withHeader (response : Response) (name value : String) : Response :=
  { response with headers := response.headers ++ [(name, value)] }

def header? (response : Response) (name : String) : Option String :=
  response.headers.lookup name

end Response

/-- What a request comes to: the response, and the failure behind it if there was one that the
service did not answer itself. -/
structure Exchange where
  response : Response
  raised : Option Failure
  deriving Repr

end Http
end UsagePolicy
