import OcppClient.Dispatcher

set_option autoImplicit false

/-! # Public API and runs

The entry points of `ocpp.c` that change or read the engine, and the runs they span:
`ocpp_init` followed by any sequence of `ocpp_push_request`, `ocpp_push_request_defer`,
`ocpp_push_response` and `ocpp_step`, each with whatever its collaborators answer.
`ocpp_drop_pending_type` and the snapshot functions are declared in `ocpp.h` but have no
body in the sources, and are not part of the runs.

`Call.created` counts the messages a call brings into the pool: one for a successful push
and one for the Heartbeat a step synthesizes. It is what the accounting of the pool is
stated against. -/

namespace OcppClient

variable {N : Nat}

/-! ## Pushing messages -/

/-- `push_message`: take a new slot, attach the payload and the timer, and queue it with
    `f` (one of the `put_msg_*`). -/
def pushMessage (id : Option (List Char)) (generated : List Char) (type : MessageType)
    (payload : Payload) (timer : Int) (f : Fin N → Ocpp N → Ocpp N) (err : Bool)
    (s : Ocpp N) : Ocpp N × Int :=
  match newMessage id generated type err s with
  | none => (s, -ENOMEM)
  | some (i, s) => (f i (s.setSlot i { s.pool i with body.payload := payload, expiry := timer }), 0)

/-- The types `remove_oldest` never evicts. -/
def isEvictionProtected (type : MessageType) : Bool :=
  type == .bootNotification || type == .startTransaction || type == .stopTransaction

/-- The messages a push created: one when it returned 0. -/
def pushed (r : Ocpp N × Int) : Nat := if r.2 = 0 then 1 else 0

namespace Reentrant

variable (co : Callout N)

/-- `remove_oldest`: free the first Ready entry whose type is none of BootNotification,
    StartTransaction and StopTransaction. -/
def removeOldest (s : Ocpp N) : (Ocpp N × Int) × Nat :=
  match s.ready.find? (fun i => !isEvictionProtected (s.pool i).body.type) with
  | none => ((s, -ENOMEM), 0)
  | some i => let u := freeMessage co i (delMsgReady i s); ((u.1, 0), u.2)

/-- `ocpp_push_request`: queue a CALL at the tail of Ready; with `force`, a full pool first
    gives up its oldest evictable Ready entry. The count includes the new CALL. -/
def ocppPushRequest (type : MessageType) (payload : Payload) (force : Bool)
    (generated : List Char) (s : Ocpp N) : (Ocpp N × Int) × Nat :=
  let r := pushMessage none generated type payload 0 putMsgReady false s
  if r.2 ≠ 0 ∧ force then
    let u := removeOldest co r.1
    let r := pushMessage none generated type payload 0 putMsgReady false u.1.1
    (r, u.2 + pushed r)
  else (r, pushed r)

end Reentrant

/-- `remove_oldest` with nothing run while the lock is released. -/
def removeOldest (s : Ocpp N) : Ocpp N × Int :=
  (Reentrant.removeOldest Callout.silent s).1

/-- `ocpp_push_request` with nothing run while the lock is released. -/
def ocppPushRequest (type : MessageType) (payload : Payload) (force : Bool)
    (generated : List Char) (s : Ocpp N) : Ocpp N × Int :=
  (Reentrant.ocppPushRequest Callout.silent type payload force generated s).1

/-- `ocpp_push_request_defer`: queue a CALL on Timer until `now + timer_sec`, or on Ready
    when `timer_sec` is zero. -/
def ocppPushRequestDefer (type : MessageType) (payload : Payload) (timerSec : UInt32)
    (now : Int) (generated : List Char) (s : Ocpp N) : Ocpp N × Int :=
  let f : Fin N → Ocpp N → Ocpp N := if timerSec = 0 then putMsgReady else putMsgTimer
  pushMessage none generated type payload (now + timerSec.toNat) f false s

/-- `ocpp_push_response`: queue the answer to a server request, with the request's id and
    type, as a CALLRESULT or (with `err`) a CALLERROR. -/
def ocppPushResponse (req : OcppMessage) (payload : Payload) (err : Bool) (s : Ocpp N) :
    Ocpp N × Int :=
  pushMessage (some req.id) [] req.type payload 0 putMsgReady err s

/-! ## Queries and initialization -/

/-- `ocpp_count_pending_requests`. -/
def ocppCountPendingRequests (s : Ocpp N) : Nat :=
  countMessagesReady s + countMessagesWaiting s + countMessagesTicking s

/-- `ocpp_get_type_from_idstr`: the type of the Wait entry `find_msg_by_idstr` finds. -/
def ocppGetTypeFromIdstr (idstr : List Char) (s : Ocpp N) : MessageType :=
  match findMsgByIdstr s.wait idstr s with
  | none => .max
  | some req => (s.pool req).body.type

/-- `ocpp_init`: a zeroed engine with both timestamps at `now`. -/
def ocppInit (now : Int) : Ocpp N :=
  { pool := fun _ => .zero, ready := [], wait := [], timer := [],
    txTimestamp := now, rxTimestamp := now, log := [] }

/-! ## Runs -/

/-- A public call that changes the engine, with the answers of its collaborators: the
    generated id of a new CALL and the clock `ocpp_push_request_defer` reads. -/
inductive Call
  | pushRequest (type : MessageType) (payload : Payload) (force : Bool) (generated : List Char)
  | pushRequestDefer (type : MessageType) (payload : Payload) (timerSec : UInt32) (now : Int)
      (generated : List Char)
  | pushResponse (req : OcppMessage) (payload : Payload) (err : Bool)
  | step (env : Env)

/-- Run one public call. -/
def Call.exec (b : Build) : Call → Ocpp N → Ocpp N × Int
  | .pushRequest type payload force generated, s =>
    ocppPushRequest type payload force generated s
  | .pushRequestDefer type payload timerSec now generated, s =>
    ocppPushRequestDefer type payload timerSec now generated s
  | .pushResponse req payload err, s => ocppPushResponse req payload err s
  | .step env, s => ocppStep b env s

/-- Whether a step synthesizes a Heartbeat: one is due at the heartbeat phase and a slot is
    free for it. -/
def Call.heartbeatSynthesized (b : Build) (env : Env) (s : Ocpp N) : Bool :=
  let σ := ocppStepHeartbeatPhase b env s
  shouldSendHeartbeat env.cfg env.now σ && (allocMessage σ).isSome

/-- The messages a call creates: a push that returns 0, and a synthesized Heartbeat. -/
def Call.created (b : Build) : Call → Ocpp N → Nat
  | .step env, s => if Call.heartbeatSynthesized b env s then 1 else 0
  | c, s => if (c.exec b s).2 = 0 then 1 else 0

/-- The state after a sequence of calls. -/
def Ocpp.run (b : Build) : Ocpp N → List Call → Ocpp N
  | s, [] => s
  | s, c :: cs => Ocpp.run b (c.exec b s).1 cs

/-- The messages a sequence of calls creates. -/
def Ocpp.runCreated (b : Build) : Ocpp N → List Call → Nat
  | _, [] => 0
  | s, c :: cs => c.created b s + Ocpp.runCreated b (c.exec b s).1 cs

/-- The states a run from `ocpp_init` reaches at a public-API boundary. -/
inductive Reachable (b : Build) : Ocpp N → Prop
  | init (now : Int) : Reachable b (ocppInit now)
  | call {s : Ocpp N} (c : Call) : Reachable b s → Reachable b (c.exec b s).1

theorem Reachable.run {b : Build} {s : Ocpp N} (h : Reachable b s) (cs : List Call) :
    Reachable b (s.run b cs) := by
  induction cs generalizing s with
  | nil => exact h
  | cons c cs ih => exact ih (h.call c)

end OcppClient
