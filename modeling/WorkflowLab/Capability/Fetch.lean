import WorkflowLab.Capability.Failure
import WorkflowLab.Json.Literal

/-!
# Web requests

- `WebRequest`, `WebReply`: one request and its reply;
- `Fetcher`: who sends requests; a reply depends on the request and on the requests before it;
- `Fetcher.clientEvents`: what the client of a fetcher sees of a request: it is opened and closed around each request,
  or shared by all.
-/

namespace WorkflowLab

/-- A request. -/
structure WebRequest where
  method : String
  url : Json
  headers : Option (List (String × String))
  content : Option String

/-- A reply. -/
structure WebReply where
  status : Int
  text : String
  headers : List (String × String)

/-- How a fetcher reaches the web. -/
inductive Transport where
  /-- By itself. -/
  | direct
  /-- Through a client of its own for each request. -/
  | perRequest (timeout : Json)
  /-- Through one client for all requests. -/
  | shared (timeout : Json)

/-- Who sends requests: any behaviour, given the requests up to the present one. -/
structure Fetcher where
  transport : Transport
  reply : List WebRequest → Except Failure WebReply

/-- What a client sees. -/
inductive ClientEvent where
  | opened (timeout : Json)
  | sent (request : WebRequest) (timeout : Option Json)
  | closed

namespace Fetcher

/-- What the client sees of one request, whether it succeeds or not. -/
def clientEvents (fetcher : Fetcher) (r : WebRequest) : List ClientEvent :=
  match fetcher.transport with
  | .direct => [.sent r none]
  | .perRequest timeout => [.opened timeout, .sent r none, .closed]
  | .shared timeout => [.sent r (some timeout)]

/-- The note about a reply, by fetchers that work through a client. -/
def note? (fetcher : Fetcher) (r : WebRequest) (reply : WebReply) : Option String :=
  match fetcher.transport with
  | .direct => none
  | _ => some (r.method ++ " " ++ r.url.display ++ " -> " ++ toString reply.status)

end Fetcher

end WorkflowLab
