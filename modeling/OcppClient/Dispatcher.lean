import OcppClient.Engine

set_option autoImplicit false

/-! # The dispatcher: one `ocpp_step`

`ocpp_step` reads the clock once and runs four phases under the lock: drain one message
from Ready (after sweeping expired Wait entries), take in one frame, synthesize a
Heartbeat when the link is idle, and promote expired Timer entries. The answers of the
collaborators a step consults are the fields of `Env`: the clock, what each of the (at
most two) `ocpp_send` calls returns, what `ocpp_recv` returns and the frame it fills in,
the configuration, and the id generated for a Heartbeat.

`list_for_each_safe` visits the list as it stood when the loop began, since the body only
unlinks the node it is visiting; the sweeps are therefore folds over that list.

The lock is released while `ocpp_recv` blocks and in every `dispatch_event`, including the
one inside each `free_message`. The phases are therefore written over a `Callout`, the
calls that run there, and `ocpp_step` with nothing run meanwhile is their instance at
`Callout.silent`. -/

namespace OcppClient

variable {N : Nat}

/-- The collaborators' answers during one `ocpp_step`. -/
structure Env where
  /-- `time(NULL)`. -/
  now : Int
  /-- `ocpp_send` in the drain at the top of the step. -/
  sent : Int
  /-- `ocpp_send` in the drain after a Heartbeat is synthesized. -/
  heartbeatSent : Int
  /-- The return value of `ocpp_recv`. -/
  recvResult : Int
  /-- The transport contract: `ocpp_recv` returns 0, `-ENOMSG` or another negative error. -/
  recvResult_le : recvResult ≤ 0
  /-- The frame `ocpp_recv` fills in. -/
  received : OcppMessage
  cfg : Configuration
  /-- The id `ocpp_generate_message_id` writes for a synthesized Heartbeat. -/
  heartbeatId : List Char

/-- A step in which both calls to `ocpp_send` return `sent` and `ocpp_recv` delivers
    `received`, or returns `-ENOMSG` when there is no frame. -/
def Env.make (now sent : Int) (received : Option OcppMessage) (cfg : Configuration)
    (heartbeatId : List Char) : Env where
  now := now
  sent := sent
  heartbeatSent := sent
  recvResult := if received.isSome then 0 else -ENOMSG
  recvResult_le := by split <;> decide
  received := received.getD ⟨[], .none, .max, ⟨0, 0⟩⟩
  cfg := cfg
  heartbeatId := heartbeatId

/-! ## Timer promotion

`process_timer_messages` reaches no release point of the lock. -/

/-- The body of the loop in `process_timer_messages` for one Timer entry. -/
def timerVisit (now : Int) (s : Ocpp N) (i : Fin N) : Ocpp N :=
  if (s.pool i).expiry > now then s else putMsgReady i (delMsgTimer i s)

/-- `process_timer_messages`: expired Timer entries move to the tail of Ready. -/
def processTimerMessages (now : Int) (s : Ocpp N) : Ocpp N × Int :=
  if countMessagesTicking s ≤ 0 then (s, 0)
  else (s.timer.foldl (timerVisit now) s, 0)

/-! ## The phases, over what runs while the lock is released

Each function returns, beside its result, the number of messages created meanwhile: by the
calls of the callout `co`, and by a Heartbeat it synthesizes. -/

namespace Reentrant

variable (co : Callout N)

/-- `send_message`: count the attempt, arm the transport timeout, take the slot off Ready
    and pass it to `ocpp_send`, which returns `sent`. A CALL that went out, and a failed
    send that may be retried, wait for an answer; anything else is freed. -/
def sendMessage (b : Build) (now sent : Int) (i : Fin N) (s : Ocpp N) : Ocpp N × Nat :=
  let s := s.setSlot i { s.pool i with attempts := (s.pool i).attempts + 1,
                                       expiry := getRetryInterval b now }
  let s := ocppSend i (delMsgReady i s)
  let msg := s.pool i
  if sent = 0 then
    if msg.body.role = .call then (putMsgWait i s, 0) else freeMessage co i s
  else if msg.attempts < b.txRetries ∨ isTransactionRelated msg ∨
      msg.body.type = .bootNotification then (putMsgWait i s, 0)
  else freeMessage co i s

/-- The body of the loop in `process_tx_timeout` for one Wait entry. -/
def txTimeoutVisit (b : Build) (now : Int) (s : Ocpp N) (i : Fin N) : Ocpp N × Nat :=
  if (s.pool i).expiry > now then (s, 0)
  else
    let s := delMsgWait i s
    if shouldDrop b (s.pool i) then freeMessage co i s else (putMsgReadyInfront i s, 0)

/-- `process_tx_timeout`: expired Wait entries are dropped or go back to Ready. -/
def processTxTimeout (b : Build) (now : Int) (s : Ocpp N) : Ocpp N × Nat :=
  s.wait.foldl (fun r i => let u := txTimeoutVisit co b now r.1 i; (u.1, r.2 + u.2)) (s, 0)

/-- `process_queued_messages`: sweep Wait, then send the head of Ready unless a message
    is still waiting for its answer. -/
def processQueuedMessages (b : Build) (now sent : Int) (s : Ocpp N) : (Ocpp N × Int) × Nat :=
  let u := processTxTimeout co b now s
  let s := u.1
  if countMessagesWaiting s > 0 then ((s, -EBUSY), u.2)
  else
    match s.ready with
    | [] => ((s, 0), u.2)
    | i :: _ => let v := sendMessage co b now sent i s; ((v.1, 0), u.2 + v.2)

/-- `process_periodic_messages`: synthesize a Heartbeat CALL when one is due, queue it and
    drain Ready again. -/
def processPeriodicMessages (b : Build) (cfg : Configuration) (now sent : Int)
    (generated : List Char) (s : Ocpp N) : (Ocpp N × Int) × Nat :=
  if shouldSendHeartbeat cfg now s then
    match newMessage none generated .heartbeat false s with
    | none => ((s, -ENOMEM), 0)
    | some (i, s) =>
      let u := processQueuedMessages co b now sent (putMsgReady i s)
      ((u.1.1, 0), 1 + u.2)
  else ((s, 0), 0)

/-- `process_central_response`: unlink the matched request; a transaction message the
    server rejected with attempts to spare waits again with a backed-off deadline,
    anything else is freed. -/
def processCentralResponse (b : Build) (cfg : Configuration) (received : OcppMessage)
    (req : Fin N) (now : Int) (s : Ocpp N) : Ocpp N × Nat :=
  let s := delMsgWait req s
  if received.role = .callError ∧ isTransactionRelated (s.pool req) then
    let maxAttempts := cfg.transactionMessageAttempts
    if (s.pool req).attempts < maxAttempts then
      (putMsgWait req (updateMessageExpiry b cfg req now s), 0)
    else freeMessage co req s
  else freeMessage co req s

/-- The `switch` of `process_incoming_messages` on a frame `ocpp_recv` delivered. A CALL
    from the server is only logged (`process_central_request`); a CALLRESULT or CALLERROR
    is matched against Wait and closes the TX round trip. -/
def processReceived (b : Build) (cfg : Configuration) (now : Int) (received : OcppMessage)
    (s : Ocpp N) : (Ocpp N × Int) × Nat :=
  match received.role with
  | .call => ((s, 0), 0)
  | .callResult | .callError =>
    match findMsgByIdstr s.wait received.id s with
    | none => ((s, -ENOLINK), 0)
    | some req =>
      let u := processCentralResponse co b cfg received req now s
      ((updateLastTxTimestamp now u.1, 0), u.2)
  | _ => ((s, -EINVAL), 0)

/-- `process_incoming_messages`: release the lock while `ocpp_recv` takes in one frame;
    unless there was none (`-ENOMSG`), stamp RX on success and dispatch the outcome. -/
def processIncomingMessages (b : Build) (env : Env) (s : Ocpp N) : (Ocpp N × Int) × Nat :=
  let u := co s
  let r := if env.recvResult ≠ 0 then ((u.1, env.recvResult), 0)
    else processReceived co b env.cfg env.now env.received u.1
  if r.1.2 ≠ -ENOMSG then
    let s := if r.1.2 ≥ 0 then updateLastRxTimestamp env.now r.1.1 else r.1.1
    let w := co (dispatchEvent r.1.2 env.received none s)
    ((w.1, r.1.2), u.2 + r.2 + w.2)
  else (r.1, u.2 + r.2)

/-- `ocpp_step`. -/
def ocppStep (b : Build) (env : Env) (s : Ocpp N) : (Ocpp N × Int) × Nat :=
  let u := processQueuedMessages co b env.now env.sent s
  let v := processIncomingMessages co b env u.1.1
  let w := processPeriodicMessages co b env.cfg env.now env.heartbeatSent env.heartbeatId v.1.1
  (((processTimerMessages env.now w.1.1).1, 0), u.2 + v.2 + w.2)

end Reentrant

/-! ## The phases with nothing run while the lock is released -/

/-- `send_message`. -/
def sendMessage (b : Build) (now sent : Int) (i : Fin N) (s : Ocpp N) : Ocpp N :=
  (Reentrant.sendMessage Callout.silent b now sent i s).1

/-- The body of the loop in `process_tx_timeout`. -/
def txTimeoutVisit (b : Build) (now : Int) (s : Ocpp N) (i : Fin N) : Ocpp N :=
  (Reentrant.txTimeoutVisit Callout.silent b now s i).1

/-- `process_tx_timeout`. -/
def processTxTimeout (b : Build) (now : Int) (s : Ocpp N) : Ocpp N :=
  (Reentrant.processTxTimeout Callout.silent b now s).1

/-- `process_queued_messages`. -/
def processQueuedMessages (b : Build) (now sent : Int) (s : Ocpp N) : Ocpp N × Int :=
  (Reentrant.processQueuedMessages Callout.silent b now sent s).1

/-- `process_periodic_messages`. -/
def processPeriodicMessages (b : Build) (cfg : Configuration) (now sent : Int)
    (generated : List Char) (s : Ocpp N) : Ocpp N × Int :=
  (Reentrant.processPeriodicMessages Callout.silent b cfg now sent generated s).1

/-- `process_central_response`. -/
def processCentralResponse (b : Build) (cfg : Configuration) (received : OcppMessage)
    (req : Fin N) (now : Int) (s : Ocpp N) : Ocpp N :=
  (Reentrant.processCentralResponse Callout.silent b cfg received req now s).1

/-- The `switch` of `process_incoming_messages`. -/
def processReceived (b : Build) (cfg : Configuration) (now : Int) (received : OcppMessage)
    (s : Ocpp N) : Ocpp N × Int :=
  (Reentrant.processReceived Callout.silent b cfg now received s).1

/-- `process_incoming_messages`. -/
def processIncomingMessages (b : Build) (env : Env) (s : Ocpp N) : Ocpp N × Int :=
  (Reentrant.processIncomingMessages Callout.silent b env s).1

/-- `ocpp_step`. -/
def ocppStep (b : Build) (env : Env) (s : Ocpp N) : Ocpp N × Int :=
  (Reentrant.ocppStep Callout.silent b env s).1

/-- The state of a step when it reaches `process_periodic_messages`. -/
def ocppStepHeartbeatPhase (b : Build) (env : Env) (s : Ocpp N) : Ocpp N :=
  (processIncomingMessages b env (processQueuedMessages b env.now env.sent s).1).1

theorem ocppStep_eq (b : Build) (env : Env) (s : Ocpp N) :
    ocppStep b env s = ((processTimerMessages env.now (processPeriodicMessages b env.cfg
      env.now env.heartbeatSent env.heartbeatId (ocppStepHeartbeatPhase b env s)).1).1, 0) :=
  rfl

end OcppClient
