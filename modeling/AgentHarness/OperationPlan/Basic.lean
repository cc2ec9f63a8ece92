import AgentHarness.Lib.Io
import AgentHarness.Lib.Map
import AgentHarness.Lib.Text
import Mathlib.Data.List.Destutter

/-!
The records of an operation plan and the files of its directory. A plan directory holds one JSON
document (`plan.json`) and four append only logs; the newest row of `items.jsonl` under an item id is
the item.
-/

namespace OperationPlan

def operationPlanSchema : String := "agent-harness.operation-plan.v1"
def operationPlanItemSchema : String := "agent-harness.operation-plan-item.v1"
def operationPlanEventSchema : String := "agent-harness.operation-plan-event.v1"
def operationPlanCommentSchema : String := "agent-harness.operation-plan-comment.v1"
def operationPlanReceiptSchema : String := "agent-harness.operation-plan-receipt.v1"

inductive Status where
  | open
  | blocked
  | completed
  | canceled
  deriving DecidableEq

structure Plan where
  schema : String := operationPlanSchema
  planId : String
  originQueueId : Option String
  sessionKey : String
  agentId : String
  laneDigest : Option String
  goal : String
  status : Status
  acceptanceCriteria : Option String
  constraints : Option String
  maxOpenItems : Option Nat
  maxFanout : Option Nat
  createdAtMs : Int
  updatedAtMs : Int
  version : Nat

inductive ItemStatus where
  | todo
  | ready
  | running
  | review
  | done
  | blocked
  | canceled
  deriving DecidableEq

namespace ItemStatus

def canTransitionTo (self next : ItemStatus) : Bool :=
  match self, next with
  | _, .canceled => true
  | .todo, .ready => true
  | .ready, .running => true
  | .running, .review => true
  | .review, .done => true
  | .todo, .blocked => true
  | .ready, .blocked => true
  | .running, .blocked => true
  | .review, .blocked => true
  | _, _ => false

def isTerminal (self : ItemStatus) : Bool :=
  match self with
  | .done | .blocked | .canceled => true
  | .todo | .ready | .running | .review => false

def asStr (self : ItemStatus) : String :=
  match self with
  | .todo => "todo"
  | .ready => "ready"
  | .running => "running"
  | .review => "review"
  | .done => "done"
  | .blocked => "blocked"
  | .canceled => "canceled"

def debug (self : ItemStatus) : String :=
  match self with
  | .todo => "Todo"
  | .ready => "Ready"
  | .running => "Running"
  | .review => "Review"
  | .done => "Done"
  | .blocked => "Blocked"
  | .canceled => "Canceled"

end ItemStatus

structure Item where
  schema : String := operationPlanItemSchema
  planId : String
  itemId : String
  title : String
  body : String
  status : ItemStatus
  dependsOn : List String
  assignee : Option String
  workerJobId : Option String
  queueId : Option String
  acceptanceCriteria : Option String
  evidence : List String
  artifacts : List String
  risk : Option String
  delegationIdempotencyKey : Option String
  version : Nat
  createdAtMs : Int
  updatedAtMs : Int

inductive EventKind where
  | created
  | itemAdded
  | itemUpdated
  | itemDelegated
  | itemPromotedToReady
  | commentAdded
  | blocked
  | completed

structure Event where
  schema : String := operationPlanEventSchema
  atMs : Int
  planId : String
  itemId : Option String
  kind : EventKind
  detail : String
  planVersion : Nat
  itemVersion : Option Nat

inductive ReceiptAction where
  | createPlan
  | addItem
  | updateItem
  | delegateItem
  | promoteDependencies
  | comment
  | block
  | complete

structure Receipt where
  schema : String := operationPlanReceiptSchema
  atMs : Int
  planId : String
  action : ReceiptAction
  itemId : Option String
  planVersion : Nat
  itemVersion : Option Nat
  success : Bool
  reason : String
  duplicated : Bool

structure Comment where
  schema : String := operationPlanCommentSchema
  atMs : Int
  planId : String
  author : Option String
  body : String

structure PlanDir where
  plan : Option Plan := none
  items : List Item := []
  events : List Event := []
  comments : List Comment := []
  receipts : List Receipt := []

abbrev Store := String → PlanDir

def Store.empty : Store := fun _ => {}

def Store.set (store : Store) (name : String) (dir : PlanDir) : Store :=
  fun other => if other = name then dir else store other

@[simp]
theorem Store.set_same (store : Store) (name : String) (dir : PlanDir)
    : store.set name dir name = dir := by
  simp [Store.set]

theorem Store.set_of_ne (store : Store) {name other : String} (dir : PlanDir) (h : other ≠ name)
    : store.set name dir other = store other := by
  simp [Store.set, h]

def safeNameChar (ch : Char) : Char :=
  if ch.isAlphanum || ch = '-' || ch = '_' || ch = '.' then ch else '_'

def safeName (value : String) : String :=
  let normalized := Text.mapChars safeNameChar value
  if normalized = "" then "plan" else normalized

def readJsonPlan (dir : PlanDir) : Except IoError Plan :=
  match dir.plan with
  | some plan => .ok plan
  | none => .error { kind := .notFound, message := "No such file or directory (os error 2)" }

def latestItems (items : List Item) : FMap String Item :=
  FMap.ofValues Item.itemId items

def itemLe (left right : Item) : Bool :=
  left.createdAtMs < right.createdAtMs
    || (left.createdAtMs = right.createdAtMs && left.itemId ≤ right.itemId)

def readItems (items : List Item) : List Item :=
  (latestItems items).values.insertionSort (fun left right => itemLe left right)

def readItemMap (items : List Item) : FMap String Item :=
  FMap.ofValues Item.itemId (readItems items)

def findItemIdByIdempotencyKey (order : HashOrder String) (key : String) (items : FMap String Item)
    : Option String :=
  (order.keys items.keys).find? fun itemId =>
    (items.lookup itemId).any fun item => item.delegationIdempotencyKey == some key

end OperationPlan
