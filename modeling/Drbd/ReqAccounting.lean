import Drbd.ReqQueues

/-! The sectors a request holds in `device->ap_in_flight`. `HANDED_OVER_TO_NETWORK` adds a
write's size; the positive acknowledgements, `NEG_ACKED` while pending, the loss of the
connection after the data was sent, and the barrier acknowledgement of a protocol A write
subtract it. Nothing records that it was already subtracted, so an acknowledged write that
then sees the connection drop gives its sectors back twice.

The same holds of `ap_pending_cnt` of the first peer device, which follows `NET_PENDING`:
`TO_BE_SENT` counts the request and every event that clears the flag counts it off, except
that `ack_common` and `DATA_RECEIVED` count it off whether or not the flag is still set. -/
namespace Drbd

/-- A protocol C write completed locally, sent, acknowledged by the peer, and then caught by a
connection loss before the barrier of its epoch is acknowledged. -/
def ackThenLoss : List Input :=
  [.endio 0, .ev .handedOverToNetwork, .ev .writeAckedByPeer, .ev .connectionLostWhilePending]

theorem write4k_ap_in_flight_subtracted_twice :
    valid protoC ackThenLoss write4kRouted.req write4kRouted.dev = true ∧
      write4kRouted.dev.apInFlight = 0 ∧
      (run protoC ackThenLoss write4kRouted.req write4kRouted.dev).1.done.isSome = true ∧
      (run protoC ackThenLoss write4kRouted.req write4kRouted.dev).2.apInFlight = -8 := by
  decide

/-! ### `ap_pending_cnt` -/

/-- `first_peer_device(device)->ap_pending_cnt`. -/
def Dev.apPending (d : Dev) : Option Int := d.peers.head?.map PeerDevice.apPendingCnt

theorem Dev.addApPending_apPending (d : Dev) (k : Int) :
    (d.addApPending k).apPending = d.apPending.map (· + k) := by
  simp only [Dev.apPending, Dev.addApPending, Dev.modFirstPeer]; split <;> simp_all

/-- What `__req_mod` adds to `ap_pending_cnt`. -/
def pendDelta (e : Event) (r : Req) : Int :=
  let s := r.rqState
  match e with
  | .toBeSent => 1
  | .handedOverToNetwork =>
    if r.masterBio && decide (r.rw = .write) && !(s.expReceiveAck || s.expWriteAck) &&
      s.netPending then -1 else 0
  | .connectionLostWhilePending | .negAcked => if s.netPending then -1 else 0
  | .discardWrite | .writeAckedByPeerAndSis | .writeAckedByPeer | .recvAckedByPeer
  | .dataReceived => -1
  | _ => 0

theorem barrierAcked_peers (r : Req) (d : Dev) : (barrierAcked r d).dev.peers = d.peers := by
  simp only [barrierAcked]; split_ifs <;> rfl

theorem reqMod_peers (nc : NetConf) (e : Event) (r : Req) (d : Dev) :
    (reqMod nc e r d).dev.peers = (d.addApPending (pendDelta e r)).peers := by
  cases e <;>
    simp only [reqMod, pendDelta, ackCommon, ModResult.ofTriple, reqMayBeCompleted_peers,
      reqMayBeCompletedNotSusp_peers, barrierAcked_peers, Dev.getLdev_peers, Dev.addApPending_zero,
      Bool.false_eq_true, decide_eq_true_eq, ↓reduceIte] <;>
    (try split_ifs) <;> first | rfl | (simp_all [startNewTlEpoch, barrierAcked_peers]; try rfl)

/-- `NET_PENDING` as a count. -/
def RqState.pendingBit (s : RqState) : Int := if s.netPending then 1 else 0

/-- Where `ap_pending_cnt` parts from `NET_PENDING`: `TO_BE_SENT` on a request already pending
counts it twice, and an acknowledgement of a request no longer pending counts it off again. -/
def pendSkew (e : Event) (r : Req) : Int :=
  match e with
  | .toBeSent => r.rqState.pendingBit
  | .discardWrite | .writeAckedByPeerAndSis | .writeAckedByPeer | .recvAckedByPeer
  | .dataReceived => r.rqState.pendingBit - 1
  | _ => 0

/-- Every event moves `ap_pending_cnt` as it moves `NET_PENDING`, up to its skew. -/
theorem pendDelta_eq (nc : NetConf) (e : Event) (r : Req) :
    pendDelta e r = (modFlags nc e r).pendingBit - r.rqState.pendingBit + pendSkew e r := by
  cases e <;> simp only [pendDelta, pendSkew, modFlags, barrierFlags, RqState.pendingBit,
    Bool.false_eq_true, ↓reduceIte, Int.sub_self, Int.add_zero, Int.sub_add_cancel] <;>
    split_ifs <;> first | rfl | simp_all

/-- The change of `ap_pending_cnt` an input makes. -/
def Input.pendDelta (r : Req) : Input → Int
  | .ev e => Drbd.pendDelta e r
  | .endio _ | .suspend | .resume => 0

/-- The skew of an input. -/
def Input.pendSkew (r : Req) : Input → Int
  | .ev e => Drbd.pendSkew e r
  | .endio _ | .suspend | .resume => 0

theorem step_apPending (nc : NetConf) (i : Input) (r : Req) (d : Dev) :
    (step nc i r d).dev.apPending = d.apPending.map (· + i.pendDelta r) := by
  rw [← Dev.addApPending_apPending]
  cases i with
  | ev e => simp only [Dev.apPending, step, deliver, reqMod_peers]; split_ifs <;> rfl
  | endio error =>
    simp only [Dev.apPending, step, reqMod_peers, endioEvent]
    split_ifs <;> simp [pendDelta, Input.pendDelta]
  | suspend | resume => simp [Dev.apPending, step, Input.pendDelta]

theorem step_pendDelta (nc : NetConf) (i : Input) (r : Req) (d : Dev) :
    i.pendDelta r =
      (step nc i r d).req.rqState.pendingBit - r.rqState.pendingBit + i.pendSkew r := by
  obtain ⟨b, hb⟩ := step_rqState nc i r d
  rw [hb, show ∀ s : RqState, ({ s with postponed := b } : RqState).pendingBit = s.pendingBit
    from fun _ => rfl]
  cases i with
  | ev e => exact pendDelta_eq nc e r
  | endio error =>
    simp only [inputFlags, Input.pendDelta, Input.pendSkew, endioEvent]
    split_ifs <;> simp [modFlags, RqState.pendingBit]
  | suspend | resume => simp [inputFlags, Input.pendDelta, Input.pendSkew]

/-- The skews along a run, added up. -/
def pendSkewTotal (nc : NetConf) : List Input → Req → Dev → Int
  | [], _, _ => 0
  | i :: is, r, d => i.pendSkew r + pendSkewTotal nc is (step nc i r d).req (step nc i r d).dev

/-- Along a run, `ap_pending_cnt` moves with `NET_PENDING`, up to the skews of the inputs: with
none, `ap_pending_cnt` less the flag is what it was. -/
theorem run_apPending (nc : NetConf) : ∀ (ins : List Input) (r : Req) (d : Dev),
    (run nc ins r d).2.apPending = d.apPending.map (· + ((run nc ins r d).1.rqState.pendingBit -
      r.rqState.pendingBit + pendSkewTotal nc ins r d))
  | [], r, d => by simp [run, pendSkewTotal]
  | i :: ins, r, d => by
    have hs := step_pendDelta nc i r d
    rw [run, pendSkewTotal, run_apPending, step_apPending]
    rcases d.apPending with _ | a
    · rfl
    · simp only [Option.map_some', Option.some.injEq]; omega

/-- The write re-sent after a connection loss and acknowledged: the acknowledgement counts it
off `ap_pending_cnt` a second time. -/
theorem write4k_ap_pending_counted_off_twice :
    valid protoC ackAfterResend write4kRouted.req write4kRouted.dev = true ∧
      write4kRouted.req.rqState.netPending = true ∧ write4kRouted.dev.apPending = some 1 ∧
      (run protoC ackAfterResend write4kRouted.req write4kRouted.dev).1.rqState.netPending =
        false ∧
      (run protoC ackAfterResend write4kRouted.req write4kRouted.dev).2.apPending = some (-1) := by
  decide

end Drbd
