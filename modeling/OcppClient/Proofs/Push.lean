import OcppClient.Proofs.Frame

set_option autoImplicit false

/-! # What a push does

`ocpp_push_request` either queues a new CALL in the first free slot, or fails with
`-ENOMEM` and leaves the engine as it was, or (with `force` on a full pool) first evicts the
oldest Ready entry that `remove_oldest` may evict. `ocpp_push_request_defer` and
`ocpp_push_response` have the first two outcomes only. The outcomes are stated as exact
states, so that "nothing else changes" is part of the statement. -/

namespace OcppClient

variable {N : Nat}

/-- A CALL that `push_message` builds overwrites every field of the slot's old record. -/
theorem pushedRecord_call (generated : List Char) (type : MessageType) (payload : Payload)
    (timer : Int) (old : Message) :
    pushedRecord none generated type payload timer false old =
      { body := { id := generated, role := .call, type, payload }, expiry := timer,
        attempts := 0 } := rfl

/-- On a full pool `push_message` fails and changes nothing. -/
theorem pushMessage_of_full (id : Option (List Char)) (generated : List Char)
    (type : MessageType) (payload : Payload) (timer : Int) (f : Fin N → Ocpp N → Ocpp N)
    (err : Bool) {s : Ocpp N} (h : ∀ i, (s.pool i).body.role ≠ .none) :
    pushMessage id generated type payload timer f err s = (s, -ENOMEM) := by
  rw [pushMessage_eq, firstFree_eq_none.2 h]

/-- When one slot alone is free, it is the one `alloc_message` claims. -/
theorem firstFree_of_unique {s : Ocpp N} {j : Fin N} (hj : (s.pool j).body.role = .none)
    (h : ∀ k, k ≠ j → (s.pool k).body.role ≠ .none) : firstFree s = some j := by
  cases hf : firstFree s with
  | none => exact absurd hj (firstFree_eq_none.1 hf j)
  | some k =>
    by_contra hk
    exact h k (fun e => hk (by rw [e])) (firstFree_role hf)

theorem removeOldest_of_find {s : Ocpp N} {j : Fin N}
    (h : s.ready.find? (fun i => !isEvictionProtected (s.pool i).body.type) = some j) :
    removeOldest s = (freeMessage j (delMsgReady j s), 0) := by
  simp [removeOldest_eq, h]

theorem removeOldest_of_protected {s : Ocpp N}
    (h : ∀ j ∈ s.ready, isEvictionProtected (s.pool j).body.type) :
    removeOldest s = (s, -ENOMEM) := by
  have hn : s.ready.find? (fun i => !isEvictionProtected (s.pool i).body.type) = none :=
    List.find?_eq_none.2 (by simpa using h)
  simp [removeOldest_eq, hn]

/-- The three outcomes of `ocpp_push_request`: with a free slot, the new CALL goes into the
    first one and to the tail of Ready; on a full pool with nothing to evict, the call fails
    and changes nothing; otherwise the first evictable Ready entry is freed (one
    `MESSAGE_FREE`) and its slot takes the new CALL at the tail of Ready. -/
theorem ocppPushRequest_outcomes (type : MessageType) (payload : Payload) (force : Bool)
    (generated : List Char) (s : Ocpp N) :
    let call : Message :=
      { body := { id := generated, role := .call, type, payload }, expiry := 0, attempts := 0 }
    (∀ i, firstFree s = some i →
      ocppPushRequest type payload force generated s =
        ({ s with pool := Function.update s.pool i call, ready := s.ready ++ [i] }, 0)) ∧
    ((∀ i, (s.pool i).body.role ≠ .none) →
      (force = false ∨ ∀ j ∈ s.ready, isEvictionProtected (s.pool j).body.type) →
      ocppPushRequest type payload force generated s = (s, -ENOMEM)) ∧
    (∀ pre j post, (∀ i, (s.pool i).body.role ≠ .none) → force = true →
      s.ready = pre ++ j :: post → (∀ k ∈ pre, isEvictionProtected (s.pool k).body.type) →
      isEvictionProtected (s.pool j).body.type = false →
      ocppPushRequest type payload force generated s =
        ({ s with pool := Function.update s.pool j call, ready := pre ++ post ++ [j],
                  log := s.log ++ [.event OCPP_EVENT_MESSAGE_FREE (s.pool j).body (some j)] }, 0)) := by
  refine ⟨fun i hi => ?free, fun hfull hforce => ?full, fun pre j post hfull hf hr hpre hj => ?evict⟩
  case free =>
    simp [ocppPushRequest_eq, pushMessage_eq, hi, pushedRecord_call, Ocpp.setSlot]
  case full =>
    rcases hforce with rfl | hprot
    · simp [ocppPushRequest_eq, pushMessage_of_full _ _ _ _ _ _ _ hfull]
    · simp [ocppPushRequest_eq, pushMessage_of_full _ _ _ _ _ _ _ hfull,
        removeOldest_of_protected hprot, ENOMEM]
  case evict =>
    have hfind : s.ready.find? (fun i => !isEvictionProtected (s.pool i).body.type) = some j := by
      rw [hr, List.find?_append, List.find?_eq_none.2 (by simpa using hpre),
        List.find?_cons_of_pos _ (by simpa using hj)]
      rfl
    have hjpre : j ∉ pre := fun hm => by simpa [hj] using hpre j hm
    have hfree : firstFree (freeMessage j (delMsgReady j s)) = some j :=
      firstFree_of_unique (by simp; rfl) (fun k hk => by simpa [hk] using hfull k)
    rw [ocppPushRequest_eq, pushMessage_of_full _ _ _ _ _ _ _ hfull]
    simp only [hf, ENOMEM]
    rw [if_pos (by decide), removeOldest_of_find hfind, pushMessage_eq, hfree]
    simp [pushedRecord_call, Ocpp.setSlot, freeMessage_eq, hr, List.erase_append_right _ hjpre,
      Function.update_idem]

end OcppClient
