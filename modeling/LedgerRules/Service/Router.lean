import LedgerRules.Service.Rules
import LedgerRules.Service.Transactions

/-!
# Routing

A request is handed to the handler of its path and method.  A path with one
slash too many at its end is taken for the path without it.  A step that fails
gives back the identifiers and the time that it used.

A body with half of a pair on its own is handled as if a character stood there,
and its answer is not sent.  This is so where the half is only kept and shown;
what else may become of it on the way is not followed.
-/

namespace LedgerRules

namespace Service

def version : String := "0.1.0"

/-- What a request is for. -/
inductive Route where
  | root
  | health
  | rules
  | draftedRules
  | preview
  | transactions
deriving DecidableEq, Repr

namespace Route

/-- Paths and their routes. -/
def table : List (String × Route) :=
  [("/", root), ("/health", health), ("/api/v1/automation-rules", rules),
    ("/api/v1/automation-rules/generate-account-rules", draftedRules),
    ("/api/v1/automation-rules/resolve", preview),
    ("/api/v1/transactions", transactions)]

/-- The route of a path; one slash at the end may be missing or too much. -/
def ofPath? (path : String) : Option Route :=
  let other :=
    if path.endsWith "/" then String.ofList path.toList.dropLast else path ++
      "/"
  (table.lookup path).or (table.lookup other)

end Route

/-- The body of an answer about the health of the service.  The fault of the
database, when there is one, is told. -/
def healthBody (fault? : Option String) : Json :=
  let (status, database) := match fault? with
    | none => ("healthy", [("status", Json.str "connected")])
    | some fault =>
        ("degraded", [("status", .str "disconnected"), ("error", .str fault)])
  .obj [("status", .str status), ("version", .str version),
    ("database", .obj database)]

/-- Handles a request whose body matters. -/
def withBody (body? : Option String) (store : Store) (handle : Json → Outcome) :
    Outcome :=
  match readBody body? with
  | .value body => handle body
  | .broken position =>
      .unchanged store
        (.invalid [⟨[.field "body", .item position], .brokenText⟩])
  | .unreadable =>
      .unchanged store (.detail 400 "There was an error parsing the body")

def handle (request : Request) (store : Store) : Outcome :=
  match Route.ofPath? request.path, request.method with
  | none, _ => .unchanged store (.detail 404 "Not Found")
  | some .root, "GET" =>
      .unchanged store
        (.answer 200
          (.obj [("message", .str "Finance Automation API"),
          ("version", .str version)]))
  | some .health, "GET" => .unchanged store (.answer 200 (healthBody none))
  | some .rules, "GET" => listRules request.query store
  | some .rules, "POST" =>
      withBody request.body store fun body => createRule body store
  | some .draftedRules, "POST" => createDrafted store
  | some .preview, "POST" =>
      withBody request.body store fun body => preview body store
  | some .transactions, "POST" =>
      withBody request.body store fun body =>
        createTransaction request.query body store
  | some _, _ => .unchanged store (.detail 405 "Method Not Allowed")

/-- The least status that tells of a failure. -/
def failureStatus : Nat := 400

/-- Whether half of a pair stands on its own in a text of the body of a request
whose body matters. -/
def Request.isHalved (request : Request) : Bool :=
  match Route.ofPath? request.path, request.method with
  | some .rules, "POST" | some .preview, "POST" | some .transactions, "POST" =>
      bodyIsHalved request.body
  | _, _ => false

/-- An answer as it is sent: when it tells of success it shows what the body
said, and half of a pair cannot be sent. -/
def sent (request : Request) :
    Except StoreFault Response → Except StoreFault Response
  | .ok response =>
      if request.isHalved && response.status < failureStatus then
        .error .unbindable
      else .ok response
  | .error fault => .error fault

/-- Handles a request and sends the answer; a failure gives back identifiers and
time. -/
def respond (request : Request) (store : Store) : Outcome :=
  let outcome := handle request store
  let result := sent request outcome.result
  let failed : Bool := match result with
    | .ok response => failureStatus ≤ response.status
    | .error _ => true
  if failed then ⟨outcome.store.withCountersOf store, result⟩
    else ⟨outcome.store, result⟩

end Service

end LedgerRules
