import OcppClient.Api

set_option autoImplicit false

/-! # The engine with its lock released

`ocpp.c` holds one lock over every public call and over the whole of `ocpp_step`, and
releases it in two places: around `ocpp_recv` in `process_incoming_messages`, and around
the application's event callback in `dispatch_event`, to permit reentrant public-API calls
from the callback. Every function of `Dispatcher` and `Api` that reaches a release point is
written over a `Callout`, the calls that run there; this file says which callouts the code
admits.

While the lock is released, the callback (or another thread, while `ocpp_recv` blocks) may
call `ocpp_push_request`, `ocpp_push_request_defer` and `ocpp_push_response` any number of
times. An `ocpp_push_request` that evicts runs `free_message`, which releases the lock in
its turn, so callouts nest. `ocpp_step` is called by one thread and never from the
callback, and `ocpp_init` is not called again. `ocpp_count_pending_requests` and
`ocpp_get_type_from_idstr` only read, and are left out.

A callout answers the state at the release point with the state the pushes leave and the
number of messages they created. It is a function of that state, log included; in a run
from `ocpp_init` the states at the release points of one step are distinct (each follows a
new event in the log, or the `memset` of a slot being freed), so a function loses no
interleaving. The return
codes that `ocpp_step` discards are dropped. -/

namespace OcppClient

variable {N : Nat}

/-- Public pushes made while the engine's lock is released, each run to completion, and the
    number of messages they created. An `ocpp_push_request` that evicts releases the lock
    again inside its `free_message`; what runs there is a callout whose every answer is a
    run of pushes in its turn. -/
inductive PushRun : Ocpp N → Ocpp N × Nat → Prop
  /-- No further call. -/
  | nil (s : Ocpp N) : PushRun s (s, 0)
  /-- `ocpp_push_request`, with `co` run in the callback of an eviction. -/
  | request {s : Ocpp N} {r : Ocpp N × Nat} (type : MessageType) (payload : Payload)
      (force : Bool) (generated : List Char) (co : Callout N) (hco : ∀ t, PushRun t (co t))
      (hr : PushRun (Reentrant.ocppPushRequest co type payload force generated s).1.1 r) :
      PushRun s (r.1, (Reentrant.ocppPushRequest co type payload force generated s).2 + r.2)
  /-- `ocpp_push_request_defer`, which frees nothing. -/
  | requestDefer {s : Ocpp N} {r : Ocpp N × Nat} (type : MessageType) (payload : Payload)
      (timerSec : UInt32) (now : Int) (generated : List Char)
      (hr : PushRun (ocppPushRequestDefer type payload timerSec now generated s).1 r) :
      PushRun s (r.1, pushed (ocppPushRequestDefer type payload timerSec now generated s) + r.2)
  /-- `ocpp_push_response`, which frees nothing. -/
  | response {s : Ocpp N} {r : Ocpp N × Nat} (req : OcppMessage) (payload : Payload)
      (err : Bool) (hr : PushRun (ocppPushResponse req payload err s).1 r) :
      PushRun s (r.1, pushed (ocppPushResponse req payload err s) + r.2)

/-- The states a run from `ocpp_init` reaches between public calls, under every
    interleaving of pushes at the engine's release points, with the number of messages
    created on the way. The application's own pushes are runs of pushes too. -/
inductive Reentrant.Reachable (b : Build) : Ocpp N → Nat → Prop
  | init (now : Int) : Reentrant.Reachable b (ocppInit now) 0
  | push {s : Ocpp N} {n : Nat} {r : Ocpp N × Nat} :
      Reentrant.Reachable b s n → PushRun s r → Reentrant.Reachable b r.1 (n + r.2)
  /-- `ocpp_step`, with `co` run at each of its release points. -/
  | step {s : Ocpp N} {n : Nat} (env : Env) (co : Callout N) (hco : ∀ t, PushRun t (co t)) :
      Reentrant.Reachable b s n →
      Reentrant.Reachable b (Reentrant.ocppStep co b env s).1.1
        (n + (Reentrant.ocppStep co b env s).2)

/-- Nothing run while the lock is released. -/
theorem PushRun.silent (s : Ocpp N) : PushRun s (Callout.silent s) := .nil s

/-- A run of the atomic model is an interleaving: the one in which nothing runs while the
    lock is released. -/
theorem Reentrant.Reachable.run {b : Build} {s : Ocpp N} {n : Nat}
    (h : Reentrant.Reachable b s n) (cs : List Call) :
    ∃ m, Reentrant.Reachable b (s.run b cs) m := by
  induction cs generalizing s n with
  | nil => exact ⟨n, h⟩
  | cons c cs ih =>
    cases c with
    | pushRequest type payload force generated =>
      exact ih (h.push (.request type payload force generated _ PushRun.silent (.nil _)))
    | pushRequestDefer type payload timerSec now generated =>
      exact ih (h.push (.requestDefer type payload timerSec now generated (.nil _)))
    | pushResponse req payload err => exact ih (h.push (.response req payload err (.nil _)))
    | step env => exact ih (h.step env _ PushRun.silent)

end OcppClient
