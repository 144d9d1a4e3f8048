import Mathlib.Tactic.SplitIfs

/-! The request object of `drbd_req.c`: the flag word `rq_state`, the request record with the
links it owns (interval node, work item, transfer-log node), the device counters the event
handler touches, and the completion helpers `_req_is_done`, `req_may_be_done` and
`req_may_be_completed`. -/
namespace Drbd

/-- `bio_rw` of a bio. -/
inductive Rw | read | write | readA
  deriving DecidableEq, Repr

/-- `net_conf->wire_protocol`. -/
inductive Protocol | a | b | c
  deriving DecidableEq, Repr

/-- The flag word `req->rq_state`, one field per `RQ_*` bit. -/
structure RqState where
  localPending : Bool := false
  localCompleted : Bool := false
  localOk : Bool := false
  localAborted : Bool := false
  netPending : Bool := false
  netQueued : Bool := false
  netSent : Bool := false
  netDone : Bool := false
  netOk : Bool := false
  netSis : Bool := false
  write : Bool := false
  inActLog : Bool := false
  postponed : Bool := false
  expReceiveAck : Bool := false
  expWriteAck : Bool := false
  deriving DecidableEq, Repr

/-- Modelled from the spec: `drbd_req.h` is not under src/. `RQ_LOCAL_MASK` holds the four
`LOCAL_*` flags; `IN_ACT_LOG` and `POSTPONED` are the orthogonal flags of spec §9. -/
def RqState.localMask (s : RqState) : Bool :=
  s.localPending || s.localCompleted || s.localOk || s.localAborted

/-- Modelled from the spec: `RQ_NET_MASK` holds the six `NET_*` flags. -/
def RqState.netMask (s : RqState) : Bool :=
  s.netPending || s.netQueued || s.netSent || s.netDone || s.netOk || s.netSis

/-- The two interval trees of a device. -/
inductive Tree | writeRequests | readRequests
  deriving DecidableEq, Repr

/-- The callbacks `req->w.cb` is set to. -/
inductive WorkCb | sendDblock | sendReadReq | sendOutOfSync | restartDiskIo
  deriving DecidableEq, Repr

/-- The work lists `req->w.list` can be linked into. -/
inductive WorkQueue | senderWork | resourceWork
  deriving DecidableEq, Repr

/-- `req->private_bio`: absent, the clone still owned by the backing device (with the pointer
value `PTR_ERR` would read), or `ERR_PTR(error)` stored by the local completion. -/
inductive PrivateBio | none | bio (ptr : Int) | err (e : Int)
  deriving DecidableEq, Repr

/-- What `_req_is_done` did when it destroyed the request. -/
structure Done where
  outOfSync : Bool
  inSync : Bool
  alCompleteIo : Bool
  restart : Bool
  deriving DecidableEq, Repr

/-- `struct drbd_request`. `inTree` is `none` exactly when `drbd_interval_empty(&req->i)`,
`wOn` lists the work lists `req->w.list` is linked into, `inTl` is
`!list_empty(&req->tl_requests)`, and `done` records the call of `_req_is_done`. -/
structure Req where
  rqState : RqState
  rw : Rw
  masterBio : Bool
  privateBio : PrivateBio
  epoch : Nat
  sector : Nat
  size : Nat
  inTree : Option Tree
  waiting : Bool
  wCb : Option WorkCb
  wOn : List WorkQueue
  inTl : Bool
  done : Option Done
  deriving DecidableEq, Repr

/-- `enum drbd_disk_state`, in its order. -/
inductive DiskState | diskless | attaching | detaching | failed | negotiating | inconsistent
  | outdated | unknown | consistent | upToDate
  deriving DecidableEq, Repr

def DiskState.toNat : DiskState → Nat
  | .diskless => 0 | .attaching => 1 | .detaching => 2 | .failed => 3 | .negotiating => 4
  | .inconsistent => 5 | .outdated => 6 | .unknown => 7 | .consistent => 8 | .upToDate => 9

/-- Modelled from the spec: `drbd.h` is not under src/; `enum drbd_repl_state` in its order. -/
inductive ReplState | off | established | startingSyncS | startingSyncT | wfBitmapS | wfBitmapT
  | wfSyncUuid | syncSource | syncTarget | verifyS | verifyT | pausedSyncS | pausedSyncT
  | ahead | behind
  deriving DecidableEq, Repr

def ReplState.toNat : ReplState → Nat
  | .off => 0 | .established => 1 | .startingSyncS => 2 | .startingSyncT => 3
  | .wfBitmapS => 4 | .wfBitmapT => 5 | .wfSyncUuid => 6 | .syncSource => 7 | .syncTarget => 8
  | .verifyS => 9 | .verifyT => 10 | .pausedSyncS => 11 | .pausedSyncT => 12 | .ahead => 13
  | .behind => 14

/-- `net_conf->on_congestion`. -/
inductive OnCongestion | block | pullAhead | disconnect
  deriving DecidableEq, Repr

/-- `disk_conf->read_balancing`; `striping k` stripes at `2^(15+k)` bytes. -/
inductive ReadBalancing | preferLocal | preferRemote | roundRobin | leastPending
  | congestedRemote | striping (k : Fin 6)
  deriving DecidableEq, Repr

/-- A peer device with the state of its connection that the router reads. `bitmap` lists the
set bits of its out-of-sync bitmap; `netConf` is `none` when `net_conf` is NULL, and holds
`on_congestion`, `cong_fill` and `cong_extents` otherwise. -/
structure PeerDevice where
  diskState : DiskState
  replState : ReplState
  apPendingCnt : Int
  rsPendingCnt : Int
  bitmap : List Nat
  netConf : Option (OnCongestion × Nat × Nat)
  agreedProVersion : Nat
  deriving DecidableEq, Repr

/-- The fields of `net_conf` that `__req_mod` reads through `first_peer_device(device)`; the
code only reads `net_conf`. -/
structure NetConf where
  wireProtocol : Protocol
  maxEpochSize : Nat
  deriving DecidableEq, Repr

/-- The device and resource state of one volume. -/
structure Dev where
  currentTleNr : Nat
  currentTleWrites : Nat
  apInFlight : Int
  writCnt : Nat
  readCnt : Nat
  inFlight : Int
  localCnt : Int
  diskState : DiskState
  suspended : Bool
  peers : List PeerDevice
  alSuspended : Bool
  readBalancing : ReadBalancing
  readBalanceRr : Bool
  backingCongested : Bool
  actLogUsed : Nat
  deriving DecidableEq, Repr

/-- Apply `f` to `first_peer_device(device)`. -/
def Dev.modFirstPeer (d : Dev) (f : PeerDevice → PeerDevice) : Dev :=
  { d with peers := match d.peers with | [] => [] | p :: ps => f p :: ps }

/-- `atomic_add(k, &first_peer_device(device)->ap_pending_cnt)`. -/
def Dev.addApPending (d : Dev) (k : Int) : Dev :=
  d.modFirstPeer fun p => { p with apPendingCnt := p.apPendingCnt + k }

@[simp] theorem Dev.addApPending_apInFlight (d : Dev) (k : Int) :
    (d.addApPending k).apInFlight = d.apInFlight := rfl

@[simp] theorem Dev.addApPending_zero (d : Dev) : d.addApPending 0 = d := by
  cases d
  simp only [Dev.addApPending, Dev.modFirstPeer, Int.add_zero]
  split <;> simp_all

/-- `get_ldev_if_state(device, mins)` succeeds. -/
def Dev.ldevIfState (d : Dev) (mins : DiskState) : Bool := mins.toNat ≤ d.diskState.toNat

/-- `get_ldev(device)`: a reference is taken when the disk is at least inconsistent. -/
def Dev.getLdev (d : Dev) : Dev :=
  if d.ldevIfState .inconsistent then { d with localCnt := d.localCnt + 1 } else d

@[simp] theorem Dev.getLdev_apInFlight (d : Dev) : d.getLdev.apInFlight = d.apInFlight := by
  unfold Dev.getLdev; split <;> rfl

/-- `start_new_tl_epoch`. -/
def startNewTlEpoch (d : Dev) : Dev :=
  { d with currentTleWrites := 0, currentTleNr := d.currentTleNr + 1 }

@[simp] theorem Dev.getLdev_peers (d : Dev) : d.getLdev.peers = d.peers := by
  unfold Dev.getLdev; split <;> rfl

@[simp] theorem startNewTlEpoch_apInFlight (d : Dev) : (startNewTlEpoch d).apInFlight = d.apInFlight :=
  rfl

/-- `req->private_bio != NULL`; `ERR_PTR(0)` is NULL. -/
def PrivateBio.isSome : PrivateBio → Bool
  | .none => false
  | .bio _ => true
  | .err e => e ≠ 0

/-- `PTR_ERR(req->private_bio)`. -/
def PrivateBio.ptrErr : PrivateBio → Int
  | .none => 0
  | .bio p => p
  | .err e => e

/-- `EIO`. -/
def eioErrno : Int := 5

/-- `_req_is_done`: unlink from the transfer log, mark the range out of (or in) sync for a
write, drop the activity-log reference, then free or restart. -/
def reqIsDone (d : Dev) (r : Req) : Req :=
  let s := r.rqState
  { r with
    inTl := false
    done := some
      { outOfSync := s.write && !(s.netOk && s.localOk)
        inSync := s.write && s.netOk && s.localOk && s.netSis
        alCompleteIo := s.write && s.localMask && d.ldevIfState .failed && s.inActLog
        restart := s.postponed } }

/-- The three guards of `req_may_be_completed`: the local part is not pending (or aborted),
and the request is neither queued for the sender nor waiting for the peer. -/
def RqState.mayComplete (s : RqState) : Bool :=
  !(s.localPending && !s.localAborted) && !s.netQueued && !s.netPending

@[simp] theorem RqState.mayComplete_postponed (s : RqState) (b : Bool) :
    ({ s with postponed := b } : RqState).mayComplete = s.mayComplete := rfl

/-- `req_may_be_done`. -/
def reqMayBeDone (d : Dev) (r : Req) : Req :=
  if r.masterBio && !r.rqState.postponed then r
  else if r.rqState.localPending then r
  else if !r.rqState.netMask || r.rqState.netDone then reqIsDone d r
  else r

/-- The part of `req_may_be_completed` that runs once the master bio may be completed:
unlink the interval, close the epoch, account, and either hand out the bio (the error in
the third component) or mark a failed READ still in the transfer log for retry. -/
def completeMaster (r : Req) (d : Dev) : Req × Dev × Option Int :=
  let ok := r.rqState.localOk || r.rqState.netOk
  let d := if r.rw = .write ∧ r.epoch = d.currentTleNr then startNewTlEpoch d else d
  let d := { d with inFlight := d.inFlight - 1 }
  let postponed := r.rqState.postponed || (!ok && decide (r.rw = .read) && r.inTl)
  let r := { r with inTree := none, rqState := { r.rqState with postponed := postponed } }
  if postponed then (r, d, none)
  else
    let error := r.privateBio.ptrErr
    ({ r with masterBio := false }, d, some (if ok then 0 else if error ≠ 0 then error else -eioErrno))

/-- `req_may_be_completed`. -/
def reqMayBeCompleted (r : Req) (d : Dev) : Req × Dev × Option Int :=
  let s := r.rqState
  if s.localPending && !s.localAborted then (r, d, none)
  else if s.netQueued then (r, d, none)
  else if s.netPending then (r, d, none)
  else if r.masterBio then
    let x := completeMaster r d
    (reqMayBeDone x.2.1 x.1, x.2.1, x.2.2)
  else (reqMayBeDone d r, d, none)

/-- `req_may_be_completed_not_susp`. -/
def reqMayBeCompletedNotSusp (r : Req) (d : Dev) : Req × Dev × Option Int :=
  if !d.suspended then reqMayBeCompleted r d else (r, d, none)

theorem reqMayBeCompletedNotSusp_of_not_suspended {r : Req} {d : Dev} (h : d.suspended = false) :
    reqMayBeCompletedNotSusp r d = reqMayBeCompleted r d := by
  simp [reqMayBeCompletedNotSusp, h]

@[simp] theorem reqIsDone_rqState (d : Dev) (r : Req) : (reqIsDone d r).rqState = r.rqState :=
  rfl

@[simp] theorem reqMayBeDone_rqState (d : Dev) (r : Req) :
    (reqMayBeDone d r).rqState = r.rqState := by
  unfold reqMayBeDone; split_ifs <;> rfl

theorem completeMaster_rqState (r : Req) (d : Dev) :
    (completeMaster r d).1.rqState = { r.rqState with postponed := r.rqState.postponed ||
      (!(r.rqState.localOk || r.rqState.netOk) && decide (r.rw = .read) && r.inTl) } := by
  simp only [completeMaster]
  split <;> rfl

@[simp] theorem reqMayBeDone_rw (d : Dev) (r : Req) : (reqMayBeDone d r).rw = r.rw := by
  unfold reqMayBeDone; split_ifs <;> rfl

theorem completeMaster_rw (r : Req) (d : Dev) : (completeMaster r d).1.rw = r.rw := by
  simp only [completeMaster]; split <;> rfl

@[simp] theorem reqMayBeCompleted_rw (r : Req) (d : Dev) : (reqMayBeCompleted r d).1.rw = r.rw := by
  simp only [reqMayBeCompleted, apply_ite (fun x : Req × Dev × Option Int => x.1.rw),
    reqMayBeDone_rw, completeMaster_rw, ite_self]

@[simp] theorem reqMayBeCompletedNotSusp_rw (r : Req) (d : Dev) :
    (reqMayBeCompletedNotSusp r d).1.rw = r.rw := by
  simp only [reqMayBeCompletedNotSusp]; split_ifs <;> simp

@[simp] theorem reqMayBeDone_wOn (d : Dev) (r : Req) : (reqMayBeDone d r).wOn = r.wOn := by
  unfold reqMayBeDone; split_ifs <;> rfl

theorem completeMaster_wOn (r : Req) (d : Dev) : (completeMaster r d).1.wOn = r.wOn := by
  simp only [completeMaster]; split <;> rfl

@[simp] theorem reqMayBeCompleted_wOn (r : Req) (d : Dev) :
    (reqMayBeCompleted r d).1.wOn = r.wOn := by
  simp only [reqMayBeCompleted, apply_ite (fun x : Req × Dev × Option Int => x.1.wOn),
    reqMayBeDone_wOn, completeMaster_wOn, ite_self]

@[simp] theorem reqMayBeCompletedNotSusp_wOn (r : Req) (d : Dev) :
    (reqMayBeCompletedNotSusp r d).1.wOn = r.wOn := by
  simp only [reqMayBeCompletedNotSusp]; split_ifs <;> simp

theorem completeMaster_apInFlight (r : Req) (d : Dev) :
    (completeMaster r d).2.1.apInFlight = d.apInFlight := by
  simp only [completeMaster]; split <;> split <;> rfl

@[simp] theorem reqMayBeCompleted_apInFlight (r : Req) (d : Dev) :
    (reqMayBeCompleted r d).2.1.apInFlight = d.apInFlight := by
  simp only [reqMayBeCompleted, apply_ite (fun x : Req × Dev × Option Int => x.2.1.apInFlight),
    completeMaster_apInFlight, ite_self]

@[simp] theorem reqMayBeCompletedNotSusp_apInFlight (r : Req) (d : Dev) :
    (reqMayBeCompletedNotSusp r d).2.1.apInFlight = d.apInFlight := by
  simp only [reqMayBeCompletedNotSusp]; split_ifs <;> simp

theorem completeMaster_peers (r : Req) (d : Dev) : (completeMaster r d).2.1.peers = d.peers := by
  simp only [completeMaster]; split <;> split <;> rfl

@[simp] theorem reqMayBeCompleted_peers (r : Req) (d : Dev) :
    (reqMayBeCompleted r d).2.1.peers = d.peers := by
  simp only [reqMayBeCompleted, apply_ite (fun x : Req × Dev × Option Int => x.2.1.peers),
    completeMaster_peers, ite_self]

@[simp] theorem reqMayBeCompletedNotSusp_peers (r : Req) (d : Dev) :
    (reqMayBeCompletedNotSusp r d).2.1.peers = d.peers := by
  simp only [reqMayBeCompletedNotSusp]; split_ifs <;> simp

@[simp] theorem reqMayBeDone_masterBio (d : Dev) (r : Req) :
    (reqMayBeDone d r).masterBio = r.masterBio := by
  unfold reqMayBeDone; split_ifs <;> rfl

theorem completeMaster_masterBio (r : Req) (d : Dev) :
    (completeMaster r d).1.masterBio = (r.masterBio && (completeMaster r d).2.2.isNone) := by
  simp only [completeMaster]; split <;> simp

theorem reqMayBeCompleted_rqState (r : Req) (d : Dev) :
    ∃ b, (reqMayBeCompleted r d).1.rqState = { r.rqState with postponed := b } := by
  simp only [reqMayBeCompleted]
  split_ifs
  all_goals
    constructor
    (try simp only [reqMayBeDone_rqState, completeMaster_rqState])
    rfl

theorem reqMayBeCompletedNotSusp_rqState (r : Req) (d : Dev) :
    ∃ b, (reqMayBeCompletedNotSusp r d).1.rqState = { r.rqState with postponed := b } := by
  simp only [reqMayBeCompletedNotSusp]
  split_ifs
  · exact reqMayBeCompleted_rqState r d
  · exact ⟨r.rqState.postponed, rfl⟩

theorem reqMayBeCompleted_guards {r : Req} {d : Dev} {x : Int}
    (h : (reqMayBeCompleted r d).2.2 = some x) : r.rqState.mayComplete = true := by
  simp only [reqMayBeCompleted] at h
  split_ifs at h
  simp_all [RqState.mayComplete]
  cases hp : r.rqState.localPending <;> simp_all

theorem reqMayBeCompletedNotSusp_guards {r : Req} {d : Dev} {x : Int}
    (h : (reqMayBeCompletedNotSusp r d).2.2 = some x) : r.rqState.mayComplete = true := by
  simp only [reqMayBeCompletedNotSusp] at h
  split_ifs at h
  exact reqMayBeCompleted_guards h

end Drbd
