import Mathlib.Data.List.FinRange
import Mathlib.Logic.Function.Basic
import OcppClient.Types

set_option autoImplicit false

/-! # Engine state, queues and the message pool

The static `m` of `ocpp.c` for a pool of `N = OCPP_TX_POOL_LEN` slots: the slots, the
Ready, Wait and Timer lists, and the last TX and RX timestamps. The event callback is
replaced by a log of everything the engine hands to a collaborator, each `dispatch_event`
and each `ocpp_send`, and by what runs while the lock is released around it (a `Callout`).
A send is logged with the slot record it passes and with the Wait list at the call, so that
run-level facts about sending can be read off the log.

`ocpp/list.h` is not among the sources. The queues are lists of slot indices, as the
spec's design notes suggest, with `list_add_tail` appending, `list_del` unlinking the
node and `list_count` counting. This file also holds the pool (`alloc_message`,
`new_message`, `free_message`), the id lookup and the drop and timing policies that the
dispatcher consults. -/

namespace OcppClient

/-! ## Build and run-time configuration -/

/-- The compile-time settings of `ocpp.c`: `OCPP_DEFAULT_TX_RETRIES` (default 1) and
    `OCPP_DEFAULT_TX_TIMEOUT_SEC` (default 10). `OCPP_TX_POOL_LEN` is the index `N` of
    the engine state. -/
structure Build where
  txRetries : UInt32
  txTimeoutSec : UInt32

/-- The defaults of `ocpp.c` and `ocpp.h`. -/
def Build.default : Build := ⟨1, 10⟩

/-- The configuration keys the engine reads with `ocpp_get_configuration`, each into a
    `uint32_t`. -/
structure Configuration where
  heartbeatInterval : UInt32
  transactionMessageAttempts : UInt32
  transactionMessageRetryInterval : UInt32

/-! ## Engine state -/

/-- What the engine hands to its collaborators, in order. A pointer into the pool is kept
    as the slot it points to. -/
inductive Output (N : Nat)
  /-- `ocpp_send(&msg->body)` for the slot `slot`, with its record and the Wait list at the
      call. -/
  | send (slot : Fin N) (msg : Message) (waiting : List (Fin N))
  /-- `dispatch_event(kind, msg)`, where `msg` is the body of `slot`, or the frame
      `ocpp_recv` filled in when `slot` is `none`. -/
  | event (kind : Int) (msg : OcppMessage) (slot : Option (Fin N))
  deriving DecidableEq

/-- The static state `m` of `ocpp.c`. -/
structure Ocpp (N : Nat) where
  pool : Fin N → Message
  ready : List (Fin N)
  wait : List (Fin N)
  timer : List (Fin N)
  txTimestamp : Int
  rxTimestamp : Int
  log : List (Output N)

variable {N : Nat}

/-- Overwrite one pool slot. -/
def Ocpp.setSlot (s : Ocpp N) (i : Fin N) (msg : Message) : Ocpp N :=
  { s with pool := Function.update s.pool i msg }

@[simp] theorem Ocpp.setSlot_pool (s : Ocpp N) (i j : Fin N) (msg : Message) :
    (s.setSlot i msg).pool j = if j = i then msg else s.pool j :=
  Function.update_apply _ _ _ _

@[simp] theorem Ocpp.setSlot_ready (s : Ocpp N) (i : Fin N) (msg : Message) :
    (s.setSlot i msg).ready = s.ready := rfl

@[simp] theorem Ocpp.setSlot_wait (s : Ocpp N) (i : Fin N) (msg : Message) :
    (s.setSlot i msg).wait = s.wait := rfl

@[simp] theorem Ocpp.setSlot_timer (s : Ocpp N) (i : Fin N) (msg : Message) :
    (s.setSlot i msg).timer = s.timer := rfl

@[simp] theorem Ocpp.setSlot_txTimestamp (s : Ocpp N) (i : Fin N) (msg : Message) :
    (s.setSlot i msg).txTimestamp = s.txTimestamp := rfl

@[simp] theorem Ocpp.setSlot_rxTimestamp (s : Ocpp N) (i : Fin N) (msg : Message) :
    (s.setSlot i msg).rxTimestamp = s.rxTimestamp := rfl

@[simp] theorem Ocpp.setSlot_log (s : Ocpp N) (i : Fin N) (msg : Message) :
    (s.setSlot i msg).log = s.log := rfl

/-! ## Queues

`add_first_to_list` has the body of `add_last_to_list` in the source; it is kept so. -/

/-- The three lists of `m.tx`. -/
inductive Queue
  | ready | wait | timer
  deriving DecidableEq

/-- The list a `struct list *head` argument names. -/
def Ocpp.queue (s : Ocpp N) : Queue → List (Fin N)
  | .ready => s.ready
  | .wait => s.wait
  | .timer => s.timer

/-- Replace the list a `struct list *head` argument names. -/
def Ocpp.setQueue (s : Ocpp N) : Queue → List (Fin N) → Ocpp N
  | .ready, l => { s with ready := l }
  | .wait, l => { s with wait := l }
  | .timer, l => { s with timer := l }

@[simp] theorem Ocpp.queue_ready (s : Ocpp N) : s.queue .ready = s.ready := rfl
@[simp] theorem Ocpp.queue_wait (s : Ocpp N) : s.queue .wait = s.wait := rfl
@[simp] theorem Ocpp.queue_timer (s : Ocpp N) : s.queue .timer = s.timer := rfl

@[simp] theorem Ocpp.setQueue_ready (s : Ocpp N) (l : List (Fin N)) :
    s.setQueue .ready l = { s with ready := l } := rfl

@[simp] theorem Ocpp.setQueue_wait (s : Ocpp N) (l : List (Fin N)) :
    s.setQueue .wait l = { s with wait := l } := rfl

@[simp] theorem Ocpp.setQueue_timer (s : Ocpp N) (l : List (Fin N)) :
    s.setQueue .timer l = { s with timer := l } := rfl

@[simp] theorem Ocpp.setQueue_pool (s : Ocpp N) (q : Queue) (l : List (Fin N)) :
    (s.setQueue q l).pool = s.pool := by cases q <;> rfl

@[simp] theorem Ocpp.setQueue_log (s : Ocpp N) (q : Queue) (l : List (Fin N)) :
    (s.setQueue q l).log = s.log := by cases q <;> rfl

@[simp] theorem Ocpp.setQueue_txTimestamp (s : Ocpp N) (q : Queue) (l : List (Fin N)) :
    (s.setQueue q l).txTimestamp = s.txTimestamp := by cases q <;> rfl

@[simp] theorem Ocpp.setQueue_rxTimestamp (s : Ocpp N) (q : Queue) (l : List (Fin N)) :
    (s.setQueue q l).rxTimestamp = s.rxTimestamp := by cases q <;> rfl

/-- Modelled from the spec (`ocpp/list.h` is absent): `list_add_tail` is `push_tail`. -/
@[simp] def listAddTail (i : Fin N) (l : List (Fin N)) : List (Fin N) := l ++ [i]

/-- Modelled from the spec (`ocpp/list.h` is absent): `list_del` is `remove`. -/
@[simp] def listDel (i : Fin N) (l : List (Fin N)) : List (Fin N) := l.erase i

/-- Modelled from the spec (`ocpp/list.h` is absent): `list_count` is `count`. -/
@[simp] def listCount (l : List (Fin N)) : Nat := l.length

@[simp] def addLastToList (i : Fin N) (q : Queue) (s : Ocpp N) : Ocpp N :=
  s.setQueue q (listAddTail i (s.queue q))

@[simp] def addFirstToList (i : Fin N) (q : Queue) (s : Ocpp N) : Ocpp N :=
  s.setQueue q (listAddTail i (s.queue q))

@[simp] def delFromList (i : Fin N) (q : Queue) (s : Ocpp N) : Ocpp N :=
  s.setQueue q (listDel i (s.queue q))

@[simp] def putMsgReadyInfront (i : Fin N) (s : Ocpp N) : Ocpp N := addFirstToList i .ready s
@[simp] def putMsgReady (i : Fin N) (s : Ocpp N) : Ocpp N := addLastToList i .ready s
@[simp] def putMsgWait (i : Fin N) (s : Ocpp N) : Ocpp N := addLastToList i .wait s
@[simp] def putMsgTimer (i : Fin N) (s : Ocpp N) : Ocpp N := addLastToList i .timer s
@[simp] def delMsgReady (i : Fin N) (s : Ocpp N) : Ocpp N := delFromList i .ready s
@[simp] def delMsgWait (i : Fin N) (s : Ocpp N) : Ocpp N := delFromList i .wait s
@[simp] def delMsgTimer (i : Fin N) (s : Ocpp N) : Ocpp N := delFromList i .timer s

@[simp] def countMessagesWaiting (s : Ocpp N) : Nat := listCount s.wait
@[simp] def countMessagesTicking (s : Ocpp N) : Nat := listCount s.timer
@[simp] def countMessagesReady (s : Ocpp N) : Nat := listCount s.ready

@[simp] def updateLastTxTimestamp (now : Int) (s : Ocpp N) : Ocpp N := { s with txTimestamp := now }
@[simp] def updateLastRxTimestamp (now : Int) (s : Ocpp N) : Ocpp N := { s with rxTimestamp := now }

/-- `dispatch_event`: hand an event to the application. -/
@[simp] def dispatchEvent (kind : Int) (msg : OcppMessage) (slot : Option (Fin N))
    (s : Ocpp N) : Ocpp N :=
  { s with log := s.log ++ [.event kind msg slot] }

/-! ## The lock and the event callback

`dispatch_event` releases the lock around the application's event callback, to permit
reentrant public-API calls from it, and `process_incoming_messages` releases it while
`ocpp_recv` blocks. What runs meanwhile is a `Callout`: from the state the engine leaves, the
state it finds when it takes the lock again, with the number of messages the calls made in
between created. The model assumes a registered callback (`dispatch_event` runs none when
`m.event_callback` is `NULL`). Each function of the engine that reaches a release point is
written once over the callout, in the namespace `Reentrant`; the engine in which nothing
runs while the lock is released is its instance at `Callout.silent`, under the source's
name. -/

/-- What runs while the engine's lock is released: the state the engine finds again, and the
    number of messages created meanwhile. -/
abbrev Callout (N : Nat) := Ocpp N → Ocpp N × Nat

/-- Nothing runs while the lock is released. -/
def Callout.silent : Callout N := fun s => (s, 0)

@[simp] theorem Callout.silent_apply (s : Ocpp N) : Callout.silent s = (s, 0) := rfl

/-- The call `ocpp_send(&msg->body)` for the slot `i`. -/
@[simp] def ocppSend (i : Fin N) (s : Ocpp N) : Ocpp N :=
  { s with log := s.log ++ [.send i (s.pool i) s.wait] }

/-! ## The pool -/

/-- `alloc_message`: claim the first slot whose role is `NONE`, marking it `ALLOC`. -/
def allocMessage (s : Ocpp N) : Option (Fin N × Ocpp N) :=
  match (List.finRange N).find? (fun i => (s.pool i).body.role == .none) with
  | none => none
  | some i => some (i, s.setSlot i { s.pool i with body.role := .alloc })

/-- `free_message`: announce `MESSAGE_FREE`, with the callback run by `dispatch_event`,
    and zero the slot only when it returns. -/
def Reentrant.freeMessage (co : Callout N) (i : Fin N) (s : Ocpp N) : Ocpp N × Nat :=
  let u := co (dispatchEvent OCPP_EVENT_MESSAGE_FREE (s.pool i).body (some i) s)
  (u.1.setSlot i .zero, u.2)

/-- `free_message` with nothing run while the lock is released. -/
def freeMessage (i : Fin N) (s : Ocpp N) : Ocpp N :=
  (Reentrant.freeMessage Callout.silent i s).1

/-- `new_message`: a CALL with the id `ocpp_generate_message_id` writes (`generated`)
    when `id` is `NULL`, otherwise a CALLRESULT or, with `err`, a CALLERROR carrying `id`. -/
def newMessage (id : Option (List Char)) (generated : List Char) (type : MessageType)
    (err : Bool) (s : Ocpp N) : Option (Fin N × Ocpp N) :=
  (allocMessage s).map fun (i, s) =>
    let msg := { s.pool i with body.type := type, attempts := 0 }
    let msg := match id with
      | some id => { msg with body.role := if err then .callError else .callResult, body.id := id }
      | none => { msg with body.role := .call, body.id := generated }
    (i, s.setSlot i msg)

/-- `find_msg_by_idstr`: the first slot of a list whose id agrees with `msgid` on the
    `strlen(msgid)` bytes that `memcmp` compares. -/
def findMsgByIdstr (l : List (Fin N)) (msgid : List Char) (s : Ocpp N) : Option (Fin N) :=
  l.find? fun i => memcmpEq msgid (s.pool i).body.id (strlen msgid)

/-! ## Drop and timing policies -/

/-- `is_transaction_related`. -/
def isTransactionRelated (msg : Message) : Bool :=
  match msg.body.type with
  | .startTransaction | .stopTransaction | .meterValues => true
  | _ => false

/-- `is_droppable`: never drop BootNotification and transaction-related messages. -/
def isDroppable (msg : Message) : Bool :=
  !isTransactionRelated msg && msg.body.type != .bootNotification

/-- `should_drop`: a droppable message that has used up `OCPP_DEFAULT_TX_RETRIES`. -/
def shouldDrop (b : Build) (msg : Message) : Bool :=
  let maxAttempts := b.txRetries
  if !isDroppable msg then false
  else if msg.attempts < maxAttempts then false
  else true

/-- `should_send_heartbeat`: heartbeats are enabled, the truncated time since the last TX
    reaches the interval, and nothing is ready or waiting. -/
def shouldSendHeartbeat (cfg : Configuration) (now : Int) (s : Ocpp N) : Bool :=
  let interval := cfg.heartbeatInterval
  let disabled := interval = 0
  let elapsed := toUInt32 (now - s.txTimestamp)
  if disabled ∨ elapsed < interval ∨ countMessagesReady s > 0 ∨ countMessagesWaiting s > 0 then
    false
  else true

/-- `get_retry_interval`: the Wait deadline after a send. -/
def getRetryInterval (b : Build) (now : Int) : Int :=
  let interval := b.txTimeoutSec
  now + interval.toNat

/-- `get_next_period`: the next deadline of a message the server answered with an error;
    the transaction backoff `interval * attempts` is a `uint32_t` product. -/
def getNextPeriod (b : Build) (cfg : Configuration) (msg : Message) (now : Int) : Int :=
  let interval : UInt32 :=
    if isTransactionRelated msg then cfg.transactionMessageRetryInterval * msg.attempts
    else if msg.body.type = .bootNotification ∨ msg.body.type = .heartbeat then
      cfg.heartbeatInterval
    else b.txTimeoutSec
  now + interval.toNat

/-- `update_message_expiry`. -/
def updateMessageExpiry (b : Build) (cfg : Configuration) (i : Fin N) (now : Int)
    (s : Ocpp N) : Ocpp N :=
  s.setSlot i { s.pool i with expiry := getNextPeriod b cfg (s.pool i) now }

end OcppClient
