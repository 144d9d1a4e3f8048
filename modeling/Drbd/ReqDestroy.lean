import Drbd.ReqCompletion

/-! The end of a request: `_req_is_done`, which only `req_may_be_done` calls. A request is
destroyed at most once, by the last input that reaches it, in the state `req_may_be_done` asks
for; a write it destroys without marking its range out of sync was acknowledged by some input.
What `_req_is_done` does not check: the work item may still be queued, and the barrier of the
write's epoch may never have been acknowledged. -/
namespace Drbd

/-- The state `req_may_be_done` asks for before it calls `_req_is_done`: the master bio handed
out or the request postponed, no local I/O pending, and the peer side done or never used. -/
def Req.mayBeDone (r : Req) : Bool :=
  !(r.masterBio && !r.rqState.postponed) && !r.rqState.localPending &&
    (!r.rqState.netMask || r.rqState.netDone)

/-- `r` was destroyed by `_req_is_done` in the state `req_may_be_done` asks for, and its range
is marked out of sync unless it is a write that both sides completed. -/
def Req.JustDone (r : Req) : Prop :=
  r.mayBeDone = true ∧
    r.done.map Done.outOfSync = some (r.rqState.write && !(r.rqState.netOk && r.rqState.localOk))

theorem reqMayBeDone_done (d : Dev) (r : Req) :
    (reqMayBeDone d r).done = r.done ∨ (reqMayBeDone d r).JustDone := by
  unfold reqMayBeDone
  split_ifs
  · exact .inl rfl
  · exact .inl rfl
  · refine .inr ⟨?_, rfl⟩
    cases hm : r.masterBio <;> simp_all [Req.mayBeDone, reqIsDone]
  · exact .inl rfl

theorem completeMaster_done (r : Req) (d : Dev) : (completeMaster r d).1.done = r.done := by
  simp only [completeMaster]; split <;> rfl

theorem reqMayBeCompleted_done (r : Req) (d : Dev) :
    (reqMayBeCompleted r d).1.done = r.done ∨ (reqMayBeCompleted r d).1.JustDone := by
  simp only [reqMayBeCompleted]
  split_ifs
  iterate 3 exact .inl rfl
  · exact (reqMayBeDone_done _ _).imp_left (·.trans (completeMaster_done r d))
  · exact reqMayBeDone_done _ _

theorem reqMayBeCompletedNotSusp_done (r : Req) (d : Dev) :
    (reqMayBeCompletedNotSusp r d).1.done = r.done ∨
      (reqMayBeCompletedNotSusp r d).1.JustDone := by
  simp only [reqMayBeCompletedNotSusp]
  split_ifs
  · exact reqMayBeCompleted_done r d
  · exact .inl rfl

theorem barrierAcked_done (r : Req) (d : Dev) :
    (barrierAcked r d).req.done = r.done ∨ (barrierAcked r d).req.JustDone := by
  simp only [barrierAcked]
  split_ifs
  · exact .inl rfl
  all_goals exact reqMayBeDone_done _ _

theorem reqMod_done (nc : NetConf) (e : Event) (r : Req) (d : Dev) :
    (reqMod nc e r d).req.done = r.done ∨ (reqMod nc e r d).req.JustDone := by
  cases e <;> simp only [reqMod, ackCommon, ModResult.ofTriple, true_or] <;>
    repeat' (with_reducible first
    | exact .inl rfl
    | exact reqMayBeCompletedNotSusp_done _ _
    | exact reqMayBeCompleted_done _ _
    | exact barrierAcked_done _ _
    | split)

theorem step_done (nc : NetConf) (i : Input) (r : Req) (d : Dev) :
    (step nc i r d).req.done = r.done ∨ (step nc i r d).req.JustDone := by
  cases i with
  | ev e =>
    simp only [step, deliver]
    split_ifs
    · exact reqMod_done _ _ _ _
    · exact reqMod_done _ _ _ _
  | endio error => exact reqMod_done _ _ _ _
  | suspend => exact .inl rfl
  | resume => exact .inl rfl

/-- Along a valid run, a request is destroyed at most once: by the last input, in the state
`req_may_be_done` asks for. -/
theorem run_destroyed_last {nc : NetConf} :
    ∀ {ins : List Input} {r : Req} {d : Dev}, valid nc ins r d = true → r.done = none →
      (run nc ins r d).1.done ≠ none →
      ∃ pre i, ins = pre ++ [i] ∧ (run nc pre r d).1.done = none ∧ (run nc ins r d).1.JustDone
  | [], _, _, _, h0, hd => absurd h0 hd
  | i :: ins, r, d, hv, h0, hd => by
    simp only [valid, Bool.and_eq_true] at hv
    by_cases h1 : (step nc i r d).req.done = none
    · obtain ⟨pre, j, rfl, hpre, hj⟩ := run_destroyed_last hv.2 h1 hd
      exact ⟨i :: pre, j, rfl, hpre, hj⟩
    · have hdone := (step_done nc i r d).resolve_left (by rwa [h0])
      cases ins with
      | nil => exact ⟨[], i, rfl, h0, hdone⟩
      | cons j ins => simp [valid, Input.pre, h1] at hv

/-- A protocol C write sent, negatively acknowledged, re-sent after a reconnect and then
completed locally. -/
def negAckResend : List Input := [.ev .handedOverToNetwork, .ev .negAcked, .ev .resend, .endio 0]

theorem write4k_freed_on_sender_queue :
    valid protoC negAckResend write4kRouted.req write4kRouted.dev = true ∧
      (run protoC negAckResend write4kRouted.req write4kRouted.dev).1.done =
        some ⟨true, false, true, false⟩ ∧
      (run protoC negAckResend write4kRouted.req write4kRouted.dev).1.wOn = [.senderWork] := by
  decide

theorem inputFlags_write (nc : NetConf) (i : Input) (r : Req) :
    (inputFlags nc r i).write = r.rqState.write := by
  cases i with
  | ev e => cases e <;> simp only [inputFlags, modFlags, barrierFlags] <;> (try split_ifs) <;> rfl
  | endio error => simp only [inputFlags, endioEvent]; split_ifs <;> rfl
  | suspend => rfl
  | resume => rfl

theorem run_write (nc : NetConf) :
    ∀ (ins : List Input) (r : Req) (d : Dev), (run nc ins r d).1.rqState.write = r.rqState.write
  | [], _, _ => rfl
  | i :: ins, r, d => by
    obtain ⟨b, hb⟩ := step_rqState nc i r d
    rw [run, run_write, hb]
    exact inputFlags_write nc i r

/-- The inputs that can set `NET_OK` on `r`: a positive acknowledgement, a discard, the data
reply to a read, and the hand-over of a request that expects no acknowledgement (protocol A). -/
def Input.acks (r : Req) : Input → Bool
  | .ev .writeAckedByPeer | .ev .writeAckedByPeerAndSis | .ev .recvAckedByPeer
  | .ev .discardWrite | .ev .dataReceived => true
  | .ev .handedOverToNetwork => !(r.rqState.expReceiveAck || r.rqState.expWriteAck)
  | _ => false

theorem step_netOk {nc : NetConf} {i : Input} {r : Req} {d : Dev}
    (h : r.rqState.netOk = false) (hi : i.acks r = false) :
    (step nc i r d).req.rqState.netOk = false := by
  obtain ⟨b, hb⟩ := step_rqState nc i r d
  rw [hb]
  cases i with
  | ev e =>
    cases e <;> first
      | exact h
      | rfl
      | (simp [Input.acks] at hi; done)
      | (simp only [inputFlags, modFlags, barrierFlags]; split_ifs <;> simp_all [Input.acks])
  | endio error => simp only [inputFlags, endioEvent]; split_ifs <;> simp [modFlags, h]
  | suspend => exact h
  | resume => exact h

theorem run_netOk {nc : NetConf} :
    ∀ {ins : List Input} {r : Req} {d : Dev}, r.rqState.netOk = false →
      (∀ pre j post, ins = pre ++ j :: post → j.acks (run nc pre r d).1 = false) →
        (run nc ins r d).1.rqState.netOk = false
  | [], _, _, h, _ => h
  | i :: ins, r, d, h, hi =>
    run_netOk (r := (step nc i r d).req) (d := (step nc i r d).dev)
      (step_netOk h (hi [] i ins rfl)) fun pre j post e => hi (i :: pre) j post (by rw [e]; rfl)

/-- A write that `_req_is_done` destroys without marking its range out of sync was
acknowledged: some input of its run can set `NET_OK` in the state it meets, so under protocols B
and C the peer answered it. -/
theorem destroyed_in_sync_was_acked {nc : NetConf} {ins : List Input} {r : Req} {d : Dev}
    (hv : valid nc ins r d = true) (h0 : r.done = none) (hw : r.rqState.write = true)
    (hok : r.rqState.netOk = false)
    (hx : (run nc ins r d).1.done.map Done.outOfSync = some false) :
    ∃ pre j post, ins = pre ++ j :: post ∧ j.acks (run nc pre r d).1 = true := by
  obtain ⟨-, -, -, -, hj⟩ := run_destroyed_last hv h0 (by intro h; simp [h] at hx)
  have hsync := hj.2.symm.trans hx
  simp only [run_write, hw, Option.some.injEq, Bool.true_and, Bool.not_eq_false',
    Bool.and_eq_true] at hsync
  by_contra hno
  simp only [not_exists, not_and, Bool.not_eq_true] at hno
  simp [run_netOk hok hno] at hsync

/-- A protocol C write sent, caught by a connection loss, re-sent after the reconnect,
acknowledged by the peer and completed locally, while the barrier of its epoch is not yet
acknowledged. -/
def ackAfterResend : List Input :=
  [.ev .handedOverToNetwork, .ev .connectionLostWhilePending, .ev .resend,
    .ev .handedOverToNetwork, .ev .writeAckedByPeer, .endio 0]

theorem destroyed_in_sync_was_acked_resend :
    valid protoC ackAfterResend write4kRouted.req write4kRouted.dev = true ∧
      write4kRouted.req.done = none ∧ write4kRouted.req.rqState.write = true ∧
      write4kRouted.req.rqState.netOk = false ∧
      (run protoC ackAfterResend write4kRouted.req write4kRouted.dev).1.done.map Done.outOfSync =
        some false ∧
      ∃ pre j post, ackAfterResend = pre ++ j :: post ∧
        j.acks (run protoC pre write4kRouted.req write4kRouted.dev).1 = true := by
  refine ⟨?hv, ?hd, ?hw, ?hn, ?hx, destroyed_in_sync_was_acked ?hv ?hd ?hw ?hn ?hx⟩ <;> decide

theorem write4k_destroyed_in_sync_before_barrier_ack :
    valid protoC ackAfterResend write4kRouted.req write4kRouted.dev = true ∧
      Input.ev .barrierAcked ∉ ackAfterResend ∧
      (run protoC ackAfterResend write4kRouted.req write4kRouted.dev).1.done =
        some ⟨false, false, true, false⟩ := by
  decide

end Drbd
