import Drbd.ReqState

/-! `__req_mod`, the event handler of the request state machine: every change of `rq_state`
happens here, and the master bio it may hand out is returned in `m`. -/
namespace Drbd

/-- The events of `enum drbd_req_event` that `__req_mod` handles. -/
inductive Event
  | toBeSent | toBeSubmitted | completedOk | abortDiskIo | writeCompletedWithError
  | readAheadCompletedWithError | readCompletedWithError | queueForNetRead | queueForNetWrite
  | queueForSendOos | readRetryRemoteCanceled | sendCanceled | sendFailed
  | handedOverToNetwork | oosHandedToNetwork | connectionLostWhilePending | discardWrite
  | writeAckedByPeerAndSis | writeAckedByPeer | recvAckedByPeer | postponeWrite | negAcked
  | failFrozenDiskIo | restartFrozenDiskIo | resend | barrierAcked | dataReceived
  deriving DecidableEq, Repr

/-- The return value `rv` of `__req_mod`: `0`, `MR_READ` or `MR_WRITE`; `oops` where the handler
reads `bio_data_dir(req->master_bio)` after the master bio was handed out, so that it
dereferences `NULL` and never returns. The request and device are then those at that line. -/
inductive ModRv | zero | mrRead | mrWrite | oops
  deriving DecidableEq, Repr

/-- The request and device after `__req_mod`, the error of the master bio it handed out in
`m` (if any), and `rv`. -/
structure ModResult where
  req : Req
  dev : Dev
  m : Option Int
  rv : ModRv

def ModResult.ofTriple (x : Req × Dev × Option Int) : ModResult := ⟨x.1, x.2.1, x.2.2, .zero⟩

/-- `req->i.size >> 9`. -/
def Req.sectors (r : Req) : Nat := r.size / 512

/-- The `ack_common` tail of the positive acknowledgements. -/
def ackCommon (r : Req) (d : Dev) : ModResult :=
  .ofTriple <| reqMayBeCompletedNotSusp
    { r with rqState := { r.rqState with netOk := true, netPending := false } }
    { d.addApPending (-1) with apInFlight := d.apInFlight - r.sectors }

/-- The `BARRIER_ACKED` case, also reached from `RESEND` of an acknowledged request. -/
def barrierAcked (r : Req) (d : Dev) : ModResult :=
  let s := r.rqState
  if !s.write then ⟨r, d, none, .zero⟩
  else if s.netMask then
    let d := if !(s.expReceiveAck || s.expWriteAck) then
      { d with apInFlight := d.apInFlight - r.sectors } else d
    ⟨reqMayBeDone d { r with rqState := { s with netDone := true } }, d, none, .zero⟩
  else ⟨reqMayBeDone d r, d, none, .zero⟩

/-- `__req_mod(req, what, m)`. -/
def reqMod (nc : NetConf) (e : Event) (r : Req) (d : Dev) : ModResult :=
  let s := r.rqState
  match e with
  | .toBeSent =>
    ⟨{ r with rqState := { s with
        netPending := true
        expWriteAck := s.expWriteAck || decide (nc.wireProtocol = .c)
        expReceiveAck := s.expReceiveAck || decide (nc.wireProtocol = .b) } },
      d.addApPending 1, none, .zero⟩
  | .toBeSubmitted => ⟨{ r with rqState := { s with localPending := true } }, d, none, .zero⟩
  | .completedOk =>
    let d := if s.write then { d with writCnt := d.writCnt + r.sectors }
      else { d with readCnt := d.readCnt + r.sectors }
    .ofTriple <| reqMayBeCompletedNotSusp
      { r with rqState := { s with localCompleted := true, localOk := true, localPending := false } }
      d
  | .abortDiskIo =>
    .ofTriple <| reqMayBeCompletedNotSusp { r with rqState := { s with localAborted := true } } d
  | .writeCompletedWithError | .readAheadCompletedWithError =>
    .ofTriple <| reqMayBeCompletedNotSusp
      { r with rqState := { s with localCompleted := true, localPending := false } } d
  | .readCompletedWithError =>
    ⟨{ r with rqState := { s with localCompleted := true, localPending := false } }, d, none, .zero⟩
  | .queueForNetRead =>
    ⟨{ r with
        inTree := some .readRequests, rqState := { s with netQueued := true }
        wCb := some .sendReadReq, wOn := r.wOn ++ [.senderWork] }, d, none, .zero⟩
  | .queueForNetWrite =>
    ⟨{ r with
        rqState := { s with netQueued := true }, wCb := some .sendDblock
        wOn := r.wOn ++ [.senderWork] },
      if nc.maxEpochSize ≤ d.currentTleWrites then startNewTlEpoch d else d, none, .zero⟩
  | .queueForSendOos =>
    ⟨{ r with
        rqState := { s with netQueued := true }, wCb := some .sendOutOfSync
        wOn := r.wOn ++ [.senderWork] }, d, none, .zero⟩
  | .readRetryRemoteCanceled | .sendCanceled | .sendFailed =>
    .ofTriple <| reqMayBeCompletedNotSusp { r with rqState := { s with netQueued := false } } d
  | .handedOverToNetwork =>
    if !r.masterBio then ⟨r, d, none, .oops⟩ else
    let wr := decide (r.rw = .write)
    let d := if wr then { d with apInFlight := d.apInFlight + r.sectors } else d
    let protoA := wr && !(s.expReceiveAck || s.expWriteAck) && s.netPending
    let d := if protoA then d.addApPending (-1) else d
    let s := if protoA then { s with netPending := false, netOk := true } else s
    .ofTriple <| reqMayBeCompletedNotSusp
      { r with rqState := { s with netQueued := false, netSent := true } } d
  | .oosHandedToNetwork =>
    .ofTriple <| reqMayBeCompletedNotSusp
      { r with rqState := { s with netQueued := false, netDone := true } } d
  | .connectionLostWhilePending =>
    let d := if s.netPending then d.addApPending (-1) else d
    let d := if s.netSent && s.write then { d with apInFlight := d.apInFlight - r.sectors } else d
    .ofTriple <| reqMayBeCompleted
      { r with rqState := { s with netOk := false, netPending := false, netDone := true } } d
  | .discardWrite => ackCommon { r with rqState := { s with netDone := true } } d
  | .writeAckedByPeerAndSis => ackCommon { r with rqState := { s with netSis := true } } d
  | .writeAckedByPeer | .recvAckedByPeer => ackCommon r d
  | .postponeWrite =>
    .ofTriple <| reqMayBeCompletedNotSusp { r with rqState := { s with postponed := true } } d
  | .negAcked =>
    let d := if s.netPending then
      { d.addApPending (-1) with
        apInFlight := if s.write then d.apInFlight - r.sectors else d.apInFlight }
      else d
    .ofTriple <| reqMayBeCompletedNotSusp
      { r with rqState := { s with netOk := false, netPending := false, netDone := true } } d
  | .failFrozenDiskIo =>
    if !s.localCompleted then ⟨r, d, none, .zero⟩ else .ofTriple (reqMayBeCompleted r d)
  | .restartFrozenDiskIo =>
    if !s.localCompleted then ⟨r, d, none, .zero⟩
    else
      let r := { r with rqState := { s with localCompleted := false } }
      if !r.masterBio then ⟨r, d, none, .oops⟩
      else ⟨{ r with wCb := some .restartDiskIo, wOn := r.wOn ++ [.resourceWork] }, d.getLdev,
        none, if r.rw = .write then .mrWrite else .mrRead⟩
  | .resend =>
    if !s.netOk then
      if r.wCb.isSome then
        ⟨{ r with wOn := r.wOn ++ [.senderWork] }, d, none, if s.write then .mrWrite else .mrRead⟩
      else ⟨r, d, none, .zero⟩
    else barrierAcked r d
  | .barrierAcked => barrierAcked r d
  | .dataReceived =>
    .ofTriple <| reqMayBeCompletedNotSusp
      { r with rqState := { s with netPending := false, netOk := true, netDone := true } }
      (d.addApPending (-1))

/-- The flags `BARRIER_ACKED` leaves. -/
def barrierFlags (s : RqState) : RqState :=
  if !s.write then s else if s.netMask then { s with netDone := true } else s

/-- The flag word `__req_mod` leaves, apart from `POSTPONED`, which `req_may_be_completed` may
set for a failed READ. -/
def modFlags (nc : NetConf) (e : Event) (r : Req) : RqState :=
  let s := r.rqState
  match e with
  | .toBeSent => { s with
      netPending := true
      expWriteAck := s.expWriteAck || decide (nc.wireProtocol = .c)
      expReceiveAck := s.expReceiveAck || decide (nc.wireProtocol = .b) }
  | .toBeSubmitted => { s with localPending := true }
  | .completedOk => { s with localCompleted := true, localOk := true, localPending := false }
  | .abortDiskIo => { s with localAborted := true }
  | .writeCompletedWithError | .readAheadCompletedWithError | .readCompletedWithError =>
    { s with localCompleted := true, localPending := false }
  | .queueForNetRead | .queueForNetWrite | .queueForSendOos => { s with netQueued := true }
  | .readRetryRemoteCanceled | .sendCanceled | .sendFailed => { s with netQueued := false }
  | .handedOverToNetwork =>
    if !r.masterBio then s else
    let s' := if decide (r.rw = .write) && !(s.expReceiveAck || s.expWriteAck) && s.netPending
      then { s with netPending := false, netOk := true } else s
    { s' with netQueued := false, netSent := true }
  | .oosHandedToNetwork => { s with netQueued := false, netDone := true }
  | .connectionLostWhilePending | .negAcked =>
    { s with netOk := false, netPending := false, netDone := true }
  | .discardWrite => { s with netDone := true, netOk := true, netPending := false }
  | .writeAckedByPeerAndSis => { s with netSis := true, netOk := true, netPending := false }
  | .writeAckedByPeer | .recvAckedByPeer => { s with netOk := true, netPending := false }
  | .postponeWrite => { s with postponed := true }
  | .failFrozenDiskIo => s
  | .restartFrozenDiskIo => if !s.localCompleted then s else { s with localCompleted := false }
  | .resend => if !s.netOk then s else barrierFlags s
  | .barrierAcked => barrierFlags s
  | .dataReceived => { s with netPending := false, netOk := true, netDone := true }

theorem ofTriple_notSusp_rqState (r : Req) (d : Dev) :
    ∃ b, (ModResult.ofTriple (reqMayBeCompletedNotSusp r d)).req.rqState =
      { r.rqState with postponed := b } :=
  reqMayBeCompletedNotSusp_rqState r d

theorem barrierAcked_rqState (r : Req) (d : Dev) :
    (barrierAcked r d).req.rqState = barrierFlags r.rqState := by
  simp only [barrierAcked, barrierFlags]
  split_ifs <;> simp

theorem reqMod_rqState (nc : NetConf) (e : Event) (r : Req) (d : Dev) :
    ∃ b, (reqMod nc e r d).req.rqState = { modFlags nc e r with postponed := b } := by
  cases e
  all_goals simp only [reqMod, modFlags, ackCommon]
  all_goals (try split_ifs) <;> first
    | with_reducible exact ⟨_, rfl⟩
    | with_reducible exact ofTriple_notSusp_rqState _ _
    | (rw [barrierAcked_rqState]; exact ⟨_, rfl⟩)
    | exact reqMayBeCompleted_rqState _ _

theorem barrierAcked_rw (r : Req) (d : Dev) : (barrierAcked r d).req.rw = r.rw := by
  simp only [barrierAcked]; split_ifs <;> simp

@[simp] theorem reqMod_rw (nc : NetConf) (e : Event) (r : Req) (d : Dev) :
    (reqMod nc e r d).req.rw = r.rw := by
  cases e <;> simp only [reqMod, ackCommon] <;> (try split_ifs) <;>
    simp [ModResult.ofTriple, reqMayBeCompleted_rw, reqMayBeCompletedNotSusp_rw, barrierAcked_rw]

theorem barrierAcked_m (r : Req) (d : Dev) : (barrierAcked r d).m = none := by
  simp only [barrierAcked]; split_ifs <;> rfl

theorem ofTriple_completed_mayComplete {r : Req} {d : Dev} {x : Int}
    (h : (ModResult.ofTriple (reqMayBeCompleted r d)).m = some x) :
    (ModResult.ofTriple (reqMayBeCompleted r d)).req.rqState.mayComplete = true := by
  obtain ⟨b, hb⟩ := reqMayBeCompleted_rqState r d
  simpa [ModResult.ofTriple, hb] using reqMayBeCompleted_guards h

theorem ofTriple_notSusp_mayComplete {r : Req} {d : Dev} {x : Int}
    (h : (ModResult.ofTriple (reqMayBeCompletedNotSusp r d)).m = some x) :
    (ModResult.ofTriple (reqMayBeCompletedNotSusp r d)).req.rqState.mayComplete = true := by
  obtain ⟨b, hb⟩ := reqMayBeCompletedNotSusp_rqState r d
  simpa [ModResult.ofTriple, hb] using reqMayBeCompletedNotSusp_guards h

theorem reqMod_mayComplete {nc : NetConf} {e : Event} {r : Req} {d : Dev} {x : Int}
    (h : (reqMod nc e r d).m = some x) : (reqMod nc e r d).req.rqState.mayComplete = true := by
  cases e
  case toBeSent | toBeSubmitted | readCompletedWithError | queueForNetRead | queueForNetWrite
    | queueForSendOos | barrierAcked => simp [reqMod, barrierAcked_m] at h
  case restartFrozenDiskIo | resend =>
    simp only [reqMod] at h; split_ifs at h <;> simp [barrierAcked_m] at h
  case failFrozenDiskIo =>
    simp only [reqMod] at h ⊢
    split_ifs at h ⊢
    exact ofTriple_completed_mayComplete h
  case connectionLostWhilePending => exact ofTriple_completed_mayComplete h
  case handedOverToNetwork =>
    simp only [reqMod] at h ⊢
    split_ifs at h ⊢ <;> exact ofTriple_notSusp_mayComplete h
  all_goals exact ofTriple_notSusp_mayComplete h

end Drbd
