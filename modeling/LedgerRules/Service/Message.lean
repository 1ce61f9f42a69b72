import LedgerRules.Json.Reader
import LedgerRules.Store.Basic

/-!
# Requests and responses

A request has a method, a path, query values and perhaps a body.  It is answered
with a status and a body, or refused with the problems of its query and body.
-/

namespace LedgerRules

namespace Service

/-- A request: a method, a path, query values, and the text of a body. -/
structure Request where
  method : String
  path : String
  query : List (String × String) := []
  body : Option String := none
deriving Repr

/-- An answer: a status and a body, or the problems of an invalid request. -/
inductive Response where
  | answer (status : Nat) (body : Json)
  | invalid (problems : List Payload.Problem)
deriving Repr

namespace Response

def invalidStatus : Nat := 422

def status : Response → Nat
  | .answer status _ => status
  | .invalid _ => invalidStatus

/-- An answer that says why a request was turned down. -/
def detail (status : Nat) (text : String) : Response :=
  .answer status (.obj [("detail", .str text)])

end Response

/-- What becomes of a request: the store afterwards, and a response or a fault
that no response tells of. -/
structure Outcome where
  store : Store
  result : Except StoreFault Response

namespace Outcome

def unchanged (store : Store) (response : Response) : Outcome :=
  ⟨store, .ok response⟩

def failed (store : Store) (fault : StoreFault) : Outcome :=
  ⟨store, .error fault⟩

end Outcome

/-- What the text of a body holds. -/
inductive BodyContent where
  | value (value : Json)
  | broken (position : Nat)
  | unreadable
deriving Repr

/-- The mark that may stand before the text of a body. -/
def byteOrderMark : Char := '\uFEFF'

/-- The text of a body without the mark before it. -/
def unmarked (text : String) : String :=
  match text.toList with
  | first :: rest => if first = byteOrderMark then String.ofList rest else text
  | [] => text

/-- Reads the text of a body; an empty one counts as `null`. -/
def readBody (body? : Option String) : BodyContent :=
  match body? with
  | none | some "" => .value .null
  | some text =>
      match Json.read (unmarked text) with
      | .ok value => .value value
      | .error (.malformed position) => .broken position
      | .error .longNumber | .error .tooDeep => .unreadable

/-- Whether half of a pair stands on its own in a text of a body. -/
def bodyIsHalved (body? : Option String) : Bool :=
  body?.any fun text => Json.isHalved (unmarked text)

def checkBody {Value : Type} (check : Payload.Check Value) (body : Json) :
    Payload.Checked Value :=
  let checked : Payload.Checked Value := match body with
    | .null => .refuse .missing
    | body => check body
  checked.under (.field "body")

def lastQuery? (name : String) (query : List (String × String)) :
    Option String :=
  (query.reverse.find? (·.1 = name)).map (·.2)

/-- Checks a query value that may be absent. -/
def queryValue {Value : Type} (query : List (String × String)) (name : String)
    (default : Value) (check : Payload.Check Value) : Payload.Checked Value :=
  match lastQuery? name query with
  | some value =>
      ((check (.str value)).under (.field name)).under (.field "query")
  | none => .accepted default

/-- Accepts a whole number between two optional bounds. -/
def boundedInt (least? most? : Option Int) : Payload.Check Int := fun value =>
  (Payload.int value).andThen fun number =>
    match least?.filter (number < ·), most?.filter (· < number) with
    | some least, _ => .refuse (.belowLeast least)
    | none, some most => .refuse (.aboveMost most)
    | none, none => .accepted number

mutual

/-- A value as a body shows it: doubles that are not finite are `null`. -/
def shownValue : Json → Json
  | .float double => if double.isFinite then .float double else .null
  | .arr items => .arr (shownItems items)
  | .obj fields => .obj (shownFields fields)
  | value => value

def shownItems : List Json → List Json
  | [] => []
  | item :: rest => shownValue item :: shownItems rest

/-- The fields of an object as a body shows them. -/
def shownFields : List (String × Json) → List (String × Json)
  | [] => []
  | (key, value) :: rest => (key, shownValue value) :: shownFields rest

end

/-- How deeply the values of a shown object may be nested. -/
def shownDepth : Nat := 255

/-- Accepts an object that a body can show. -/
def shownObject : Payload.Check Payload.Fields := fun value =>
  (Payload.anyObject value).andThen fun fields =>
    if Json.depthOfFields fields ≤ shownDepth then .accepted fields
      else .refuse .tooDeep

/-- A rule as a body shows it.  Its conditions and actions must be objects. -/
def showRule (row : RuleRow) : Except StoreFault Json :=
  let checked : Payload.Checked Unit :=
    (fun _ _ => ())
      <$> Payload.required row.shownFields "conditions" shownObject
      <*> Payload.required row.shownFields "actions" shownObject
  match checked with
  | .accepted _ => .ok (shownValue (.obj row.shownFields))
  | .rejected problems => .error (.unshownRule problems)
  | .overflowed => .error .overflow

/-- A transaction as a body shows it.  Its amount must be finite. -/
def showTransaction (row : TransactionRow) : Except StoreFault Json :=
  let checked : Payload.Checked Unit :=
    (fun _ _ => ())
      <$> Payload.required row.shownFields "amount" Payload.decimal
      <*> Payload.optional row.shownFields "applied_rules"
        (Payload.list shownObject)
  match checked with
  | .accepted _ => .ok (shownValue (.obj row.shownFields))
  | .rejected problems => .error (.unshownTransaction problems)
  | .overflowed => .error .overflow

end Service

end LedgerRules
