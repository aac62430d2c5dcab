import OcppClient.Proofs.Frame

set_option autoImplicit false

/-! # Clock arithmetic: heartbeats and backoff

Two comparisons of the engine go through `uint32_t`. `should_send_heartbeat` casts the
elapsed time `now - last_tx_timestamp` to `uint32_t`, so the Heartbeat is due when that
difference modulo `2^32` reaches `HeartbeatInterval`. `get_next_period` multiplies
`TransactionMessageRetryInterval` by the attempt count in `uint32_t`, so the backoff after a
CALLERROR is the product modulo `2^32`, exact only while the product fits. -/

namespace OcppClient

variable {N : Nat}

/-! ## Heartbeats -/

theorem shouldSendHeartbeat_iff (cfg : Configuration) (now : Int) (s : Ocpp N) :
    shouldSendHeartbeat cfg now s = true ↔
      cfg.heartbeatInterval ≠ 0 ∧ s.ready = [] ∧ s.wait = [] ∧
        (cfg.heartbeatInterval.toNat : Int) ≤ (now - s.txTimestamp) % 4294967296 := by
  have h0 : 0 ≤ (now - s.txTimestamp) % 4294967296 := Int.emod_nonneg _ (by decide)
  have key : (cfg.heartbeatInterval.toNat : Int) ≤ (now - s.txTimestamp) % 4294967296 ↔
      ¬ ((now - s.txTimestamp) % 4294967296).toNat < cfg.heartbeatInterval.toNat := by omega
  rw [key]
  simp only [shouldSendHeartbeat, UInt32.lt_iff_toNat_lt, toUInt32_toNat, countMessagesReady,
    countMessagesWaiting, listCount, gt_iff_lt, List.length_pos]
  split_ifs with hp
  · simp only [Bool.false_eq_true, false_iff]
    rintro ⟨hA, hR, hW, hB⟩
    rcases hp with h | h | h | h
    exacts [hA h, hB h, h hR, h hW]
  · simp only [true_iff]
    simp only [not_or, not_not] at hp
    exact ⟨hp.1, hp.2.2.1, hp.2.2.2, hp.2.1⟩

/-- A step synthesizes a Heartbeat exactly when, at the heartbeat phase, the interval is
    non-zero, Ready and Wait are empty, a slot is free, and the elapsed time since the last
    TX, taken modulo `2^32`, has reached the interval. Otherwise the step ends with timer
    promotion alone. -/
theorem ocppStep_heartbeat (b : Build) (env : Env) (s : Ocpp N) :
    let σ := ocppStepHeartbeatPhase b env s
    let interval := env.cfg.heartbeatInterval
    let due := interval ≠ 0 ∧ σ.ready = [] ∧ σ.wait = [] ∧
      (interval.toNat : Int) ≤ (env.now - σ.txTimestamp) % 4294967296
    (∀ i, due → firstFree σ = some i →
      (ocppStep b env s).1 = (processTimerMessages env.now (processQueuedMessages b env.now
        env.heartbeatSent (putMsgReady i (σ.setSlot i
          (newRecord none env.heartbeatId .heartbeat false (σ.pool i))))).1).1) ∧
    (¬ (due ∧ ∃ i, (σ.pool i).body.role = .none) →
      (ocppStep b env s).1 = (processTimerMessages env.now σ).1) := by
  intro σ interval due
  refine ⟨fun i hdue hi => ?_, fun hnot => ?_⟩
  · rw [ocppStep_eq, processPeriodicMessages_eq, if_pos ((shouldSendHeartbeat_iff ..).2 hdue), hi]
  · rw [ocppStep_eq, processPeriodicMessages_eq]
    by_cases hs : shouldSendHeartbeat env.cfg env.now σ
    · have hfull : firstFree σ = none := by
        rw [firstFree_eq_none]
        exact fun i hi => hnot ⟨(shouldSendHeartbeat_iff ..).1 hs, i, hi⟩
      rw [if_pos hs, hfull]
    · rw [if_neg hs]

/-- At time `2^32` after `ocpp_init`, with nothing queued and a free slot, the exact elapsed
    time is past a 10-second interval, yet the step synthesizes no Heartbeat and sends
    nothing. -/
theorem ocppStep_no_heartbeat_at_two_pow_32 :
    let s : Ocpp 1 := ocppInit 0
    let env := Env.make 4294967296 0 none ⟨10, 3, 60⟩ ['h']
    let σ := ocppStepHeartbeatPhase Build.default env s
    env.cfg.heartbeatInterval ≠ 0 ∧ σ.ready = [] ∧ σ.wait = [] ∧ (σ.pool 0).body.role = .none ∧
      (env.cfg.heartbeatInterval.toNat : Int) ≤ env.now - σ.txTimestamp ∧
      ((ocppStep Build.default env s).1.pool 0).body.role = .none ∧
      (ocppStep Build.default env s).1.log = [] := by
  decide

/-! ## Backoff after a CALLERROR -/

/-- A StartTransaction sent twice is answered by a CALLERROR at time 10 with a retry
    interval of `2^31`: the product `2^31 × 2` wraps to 0, the new expiry is 10 rather than
    `10 + 2^32`, and the step at time 11 sends the message again. -/
theorem callError_backoff_wraps :
    let cfg : Configuration := ⟨0, 3, 2147483648⟩
    let s := (ocppInit 0 : Ocpp 1).run Build.default
      [.pushRequest .startTransaction ⟨0, 0⟩ false ['1'], .step (.make 0 0 none cfg []),
       .step (.make 10 0 (some ⟨['1'], .callError, .startTransaction, ⟨0, 0⟩⟩) cfg [])]
    let t := (ocppStep Build.default (.make 11 0 none cfg []) s).1
    s.wait = [0] ∧ (s.pool 0).attempts = 2 ∧ (s.pool 0).expiry = 10 ∧
      t.log.drop s.log.length = [.send 0 { s.pool 0 with attempts := 3, expiry := 21 } []] ∧
      (11 : Int) < 10 + 2147483648 * 2 := by
  decide

end OcppClient
