import Drbd.ReqPairing
import Drbd.ReqFrame

/-! The consistency checks of the request state machine: the `D_ASSERT`s of `__req_mod` at
`TO_BE_SENT`, `TO_BE_SUBMITTED`, `READ_COMPLETED_WITH_ERROR`, `QUEUE_FOR_NET_READ` and
`QUEUE_FOR_NET_WRITE`, and the two of `req_may_be_completed`. A `D_ASSERT` only logs, so the
checks are kept apart from the functions they sit in: each is a predicate on the request it
reads, and an input passes its checks when every one it reaches holds.

Two runs fail them. `ABORT_DISK_IO` on a read still pending on the local disk lets
`req_may_be_completed` push the read back for retry with `LOCAL_PENDING` set and `NET_DONE`
clear. And `find_peer_device_for_read` keeps `private_bio` when read balancing picks the peer,
so the read goes both to the peer and to the local disk, and a local read error then meets
network flags.

`__drbd_make_request` runs checks of its own under `req_lock` (`makeRequestChecks`): those of
the events it hands the request, `D_ASSERT(!(remote && send_oos))` of
`drbd_process_write_request`, and those of `req_may_be_completed` at `out:`. A fresh request
passes them exactly when the device is not suspended. -/
namespace Drbd

/-- The `D_ASSERT`s of `__req_mod` for event `e`, on the request it is handed. The check of
`READ_COMPLETED_WITH_ERROR` comes after the local flags change, which leaves the network ones
as they were. -/
def reqModAsserts (e : Event) (r : Req) : Bool :=
  let s := r.rqState
  match e with
  | .toBeSent => !s.netMask
  | .toBeSubmitted => !s.localMask
  | .readCompletedWithError => !s.netMask
  | .queueForNetRead => r.inTree.isNone && s.netPending && !s.localMask
  | .queueForNetWrite => s.netPending
  | _ => true

/-- The two `D_ASSERT`s of `req_may_be_completed` once it decides to complete the master bio,
both on the flags `s` it was called with: with an empty interval and no `POSTPONED`, no network
flag but `NET_DONE` is set; and a request it pushes back for retry has `LOCAL_PENDING` clear and
`NET_DONE` set. -/
def reqMayBeCompletedAsserts (r : Req) : Bool :=
  let s := r.rqState
  if (s.localPending && !s.localAborted) || s.netQueued || s.netPending || !r.masterBio then true
  else
    let ok := s.localOk || s.netOk
    (r.inTree.isSome || s.postponed ||
        !(s.netPending || s.netQueued || s.netSent || s.netOk || s.netSis)) &&
      (!(s.postponed || (!ok && decide (r.rw = .read) && r.inTl)) ||
        (!s.localPending && s.netDone))

/-- Whether `__req_mod` ends event `e` in `req_may_be_completed`, directly or through
`req_may_be_completed_not_susp` on a device that is not suspended. -/
def Event.completes (e : Event) (r : Req) (d : Dev) : Bool :=
  match e with
  | .completedOk | .abortDiskIo | .writeCompletedWithError | .readAheadCompletedWithError
  | .readRetryRemoteCanceled | .sendCanceled | .sendFailed | .oosHandedToNetwork
  | .discardWrite | .writeAckedByPeerAndSis | .writeAckedByPeer | .recvAckedByPeer
  | .postponeWrite | .negAcked | .dataReceived => !d.suspended
  | .handedOverToNetwork => r.masterBio && !d.suspended
  | .connectionLostWhilePending => true
  | .failFrozenDiskIo => r.rqState.localCompleted
  | _ => false

theorem reqMod_completes {nc : NetConf} {e : Event} {r : Req} {d : Dev}
    (h : e.completes r d = true) :
    ∃ d', reqMod nc e r d = .ofTriple (reqMayBeCompleted { r with rqState := modFlags nc e r } d') := by
  cases e <;> simp only [Event.completes, Bool.and_eq_true, Bool.not_eq_true', Bool.false_eq_true] at h <;>
    simp only [reqMod, modFlags, ackCommon] <;> (try split_ifs) <;>
    first
    | with_reducible exact ⟨_, rfl⟩
    | exact ⟨_, congrArg _ (reqMayBeCompletedNotSusp_of_not_suspended h)⟩
    | exact ⟨_, congrArg _ (reqMayBeCompletedNotSusp_of_not_suspended h.2)⟩
    | simp_all

/-- The checks `__req_mod` runs for event `e`: its own, then those of `req_may_be_completed`
when it ends there. -/
def modChecks (nc : NetConf) (e : Event) (r : Req) (d : Dev) : Bool :=
  reqModAsserts e r &&
    (!e.completes r d || reqMayBeCompletedAsserts { r with rqState := modFlags nc e r })

/-- The checks an input runs. -/
def Input.checks (nc : NetConf) (r : Req) (d : Dev) : Input → Bool
  | .ev e => modChecks nc e (if e.fromSender then { r with wOn := r.wOn.erase .senderWork } else r) d
  | .endio error => modChecks nc (endioEvent r error) { r with privateBio := .err error } d
  | .suspend | .resume => true

/-! ### The checks of the router -/

/-- The checks of the peer loop of `drbd_process_write_request` once `remote` is known: its
`D_ASSERT(!(remote && send_oos))` when the loop does not stop, then those of `TO_BE_SENT` and
`QUEUE_FOR_NET_WRITE` on the mirror branch. `QUEUE_FOR_SEND_OOS` checks nothing. -/
def processWritePeerChecks (nc : NetConf) (r : Req) (d : Dev) (remote : Bool) : Bool :=
  match d.peers with
  | [] => true
  | q :: _ =>
    let sendOos := drbdShouldSendOutOfSync q
    if !remote && !sendOos then true
    else !(remote && sendOos) &&
      (!remote || (reqModAsserts .toBeSent r && reqModAsserts .queueForNetWrite
        { (reqMod nc .toBeSent r d).req with inTree := some .writeRequests }))

/-- The checks of `drbd_process_write_request`. -/
def drbdProcessWriteRequestChecks (nc : NetConf) (r : Req) (d : Dev) : Bool :=
  match d.peers with
  | [] => true
  | p :: _ =>
    if drbdShouldDoRemote p then
      let d := (connCheckCongested d p).2
      processWritePeerChecks nc r d (d.peers.head?.any drbdShouldDoRemote)
    else processWritePeerChecks nc r d false

/-- The checks of the end of `__drbd_make_request`: those of `TO_BE_SUBMITTED`, or those of
`req_may_be_completed` at `out:`. -/
def makeRequestSubmitChecks (r : Req) : Bool :=
  if r.privateBio.isSome then reqModAsserts .toBeSubmitted r else reqMayBeCompletedAsserts r

/-- The checks of `__drbd_make_request` from the epoch stamp on. -/
def makeRequestRouteChecks (nc : NetConf) (r : Req) (d : Dev) (peer : Option Nat) : Bool :=
  let r := { r with epoch := d.currentTleNr, inTl := true }
  let d := if r.rw = .write then { d with currentTleWrites := d.currentTleWrites + 1 } else d
  if r.rw = .write then
    drbdProcessWriteRequestChecks nc r d &&
      makeRequestSubmitChecks (drbdProcessWriteRequest nc r d).2.1
  else if peer.isSome then
    let y := reqMod nc .toBeSent r d
    reqModAsserts .toBeSent r && reqModAsserts .queueForNetRead y.req &&
      makeRequestSubmitChecks (reqMod nc .queueForNetRead y.req y.dev).req
  else makeRequestSubmitChecks r

/-- The checks `__drbd_make_request` runs under `req_lock`, on the path `makeRequestLocked`
takes. -/
def makeRequestChecks (nc : NetConf) (r : Req) (d : Dev) : Bool :=
  if d.suspended then
    reqMayBeCompletedAsserts
      { r with rqState := { r.rqState with postponed := true }, privateBio := .none }
  else
    let d := { d with inFlight := d.inFlight + 1 }
    if r.rw = .write then makeRequestRouteChecks nc r d none
    else
      let x := findPeerDeviceForRead r d
      if x.1.isNone ∧ !x.2.1.privateBio.isSome then reqMayBeCompletedAsserts x.2.1
      else makeRequestRouteChecks nc x.2.1 x.2.2 x.1

/-- A peer device in `L_AHEAD` or `L_WF_BITMAP_S` has an inconsistent disk: the consequence the
comment of `drbd_should_send_out_of_sync` relies on. -/
def PeerDevice.OosInconsistent (p : PeerDevice) : Prop :=
  drbdShouldSendOutOfSync p = true → p.diskState = .inconsistent

theorem remote_and_sendOos_exclusive {p : PeerDevice} (h : p.OosInconsistent) :
    (drbdShouldDoRemote p && drbdShouldSendOutOfSync p) = false := by
  cases ho : drbdShouldSendOutOfSync p
  · simp
  · have hi := h ho
    simp only [drbdShouldSendOutOfSync, decide_eq_true_eq] at ho
    rcases ho with ho | ho <;> simp [drbdShouldDoRemote, hi, ho, ReplState.toNat]

theorem connCheckCongested_head (d : Dev) (p : PeerDevice) :
    (connCheckCongested d p).2.peers.head? = d.peers.head? ∨
      (connCheckCongested d p).2.peers.head? = d.peers.head?.map changeReplStateAhead ∨
      (connCheckCongested d p).2.peers.head? = d.peers.head?.map changeCstateDisconnecting := by
  unfold connCheckCongested
  split
  · exact .inl rfl
  · split_ifs <;> cases hd : d.peers <;> simp [Dev.modFirstPeer, startNewTlEpoch, hd]

theorem connCheckCongested_oosInconsistent {d : Dev} {p : PeerDevice}
    (h : ∀ q ∈ d.peers.head?, q.OosInconsistent) :
    ∀ q ∈ (connCheckCongested d p).2.peers.head?, q.OosInconsistent := by
  intro q hq
  rcases connCheckCongested_head d p with h' | h' | h' <;> rw [h'] at hq
  · exact h q hq
  all_goals
    revert hq
    cases d.peers.head? <;> simp
    rintro rfl
    simp [PeerDevice.OosInconsistent, changeReplStateAhead, changeCstateDisconnecting,
        drbdShouldSendOutOfSync]

section Router

variable {nc : NetConf} {r : Req} {d : Dev}

theorem processWritePeerChecks_ok {remote : Bool} (hn : r.rqState.netMask = false)
    (hp : ∀ q ∈ d.peers.head?, q.OosInconsistent)
    (hr : remote = true → ∀ q ∈ d.peers.head?, drbdShouldDoRemote q = true) :
    processWritePeerChecks nc r d remote = true := by
  unfold processWritePeerChecks
  split
  · rfl
  · rename_i q qs hq
    have hx : (remote && drbdShouldSendOutOfSync q) = false := by
      cases remote
      · rfl
      · simpa [hr rfl q (by simp [hq])] using remote_and_sendOos_exclusive (hp q (by simp [hq]))
    simp only [hx, Bool.not_false, Bool.true_and]
    split_ifs
    · rfl
    · cases remote <;> simp_all [reqModAsserts, reqMod]

theorem drbdProcessWriteRequestChecks_ok (hn : r.rqState.netMask = false)
    (hp : ∀ q ∈ d.peers.head?, q.OosInconsistent) :
    drbdProcessWriteRequestChecks nc r d = true := by
  unfold drbdProcessWriteRequestChecks
  split
  · rfl
  · split_ifs
    · exact processWritePeerChecks_ok hn (connCheckCongested_oosInconsistent hp)
        fun h q hq => by simpa [Option.mem_def.mp hq] using h
    · exact processWritePeerChecks_ok hn hp (by simp)

theorem reqMayBeCompletedAsserts_netQueued (h : r.rqState.netQueued = true) :
    reqMayBeCompletedAsserts r = true := by
  simp [reqMayBeCompletedAsserts, h]

/-- A request with no local or network flag, not `POSTPONED` and in no tree, as allocation hands
it to the router. -/
structure Quiet (r : Req) : Prop where
  localClear : r.rqState.localMask = false
  netClear : r.rqState.netMask = false
  notPostponed : r.rqState.postponed = false
  noTree : r.inTree = none

theorem Quiet.of_rqState {r r' : Req} (h : Quiet r) (hs : r'.rqState = r.rqState)
    (ht : r'.inTree = r.inTree) : Quiet r' :=
  ⟨hs ▸ h.1, hs ▸ h.2, hs ▸ h.3, ht ▸ h.4⟩

theorem reqMayBeCompletedAsserts_quiet (h : Quiet r) (hr : r.rw = .read → r.inTl = false) :
    reqMayBeCompletedAsserts r = true := by
  obtain ⟨hl, hn, hpo, -⟩ := h
  simp only [RqState.localMask, RqState.netMask, Bool.or_eq_false_iff] at hl hn
  by_cases hw : r.rw = .read <;> simp_all [reqMayBeCompletedAsserts]

theorem processWritePeer_req (remote : Bool) :
    (processWritePeer nc r d remote).2.1 = r ∨
      ((processWritePeer nc r d remote).2.1.rqState.netQueued = true ∧
        (processWritePeer nc r d remote).2.1.rqState.localMask = r.rqState.localMask) := by
  unfold processWritePeer processRemote
  dsimp only
  split
  · exact .inl rfl
  · split_ifs <;> simp [reqMod, RqState.localMask]

theorem drbdProcessWriteRequest_req :
    (drbdProcessWriteRequest nc r d).2.1 = r ∨
      ((drbdProcessWriteRequest nc r d).2.1.rqState.netQueued = true ∧
        (drbdProcessWriteRequest nc r d).2.1.rqState.localMask = r.rqState.localMask) := by
  unfold drbdProcessWriteRequest
  split
  · exact .inl rfl
  · split_ifs <;> exact processWritePeer_req _

theorem makeRequestSubmitChecks_ok {x : Req} (hl : x.rqState.localMask = false)
    (h : x.rqState.netQueued = true ∨ (Quiet x ∧ (x.rw = .read → x.inTl = false))) :
    makeRequestSubmitChecks x = true := by
  unfold makeRequestSubmitChecks
  split_ifs
  · simp [reqModAsserts, hl]
  · rcases h with h | ⟨hq, hr⟩
    · exact reqMayBeCompletedAsserts_netQueued h
    · exact reqMayBeCompletedAsserts_quiet hq hr

theorem drbdProcessWriteRequest_submitChecks (h : Quiet r) (hw : r.rw = .write) :
    makeRequestSubmitChecks (drbdProcessWriteRequest nc r d).2.1 = true := by
  rcases @drbdProcessWriteRequest_req nc r d with hx | ⟨hq, hl⟩
  · rw [hx]
    exact makeRequestSubmitChecks_ok h.localClear (.inr ⟨h, by simp [hw]⟩)
  · exact makeRequestSubmitChecks_ok (hl.trans h.localClear) (.inl hq)

theorem makeRequestRouteChecks_ok {peer : Option Nat} (h : Quiet r)
    (hp : r.rw = .write → ∀ q ∈ d.peers.head?, q.OosInconsistent)
    (hsrc : r.rw ≠ .write → peer.isSome ∨ r.privateBio.isSome) :
    makeRequestRouteChecks nc r d peer = true := by
  unfold makeRequestRouteChecks
  by_cases hw : r.rw = .write
  · simp only [hw, if_true]
    exact Bool.and_eq_true_iff.mpr ⟨drbdProcessWriteRequestChecks_ok h.netClear (hp hw),
      drbdProcessWriteRequest_submitChecks (h.of_rqState rfl rfl) rfl⟩
  · simp only [hw, if_false]
    split_ifs with hpeer
    · simp only [reqModAsserts, reqMod, h.netClear, h.noTree, Bool.not_false, Option.isNone_none,
        Bool.and_self, Bool.true_and]
      refine Bool.and_eq_true_iff.mpr ⟨?_, makeRequestSubmitChecks_ok ?_ (.inl rfl)⟩ <;>
        simpa [RqState.localMask] using h.localClear
    · have hb : r.privateBio.isSome = true := by simpa [hpeer] using hsrc hw
      simp [makeRequestSubmitChecks, hb, reqModAsserts, h.localClear]

theorem findPeerDeviceForRead_quiet (d : Dev) (h : Quiet r) :
    Quiet (findPeerDeviceForRead r d).2.1 ∧ (findPeerDeviceForRead r d).2.1.inTl = r.inTl ∧
      (findPeerDeviceForRead r d).2.1.rw = r.rw := by
  rcases findPeerDeviceForRead_req r d with hx | hx <;> rw [hx] <;>
    exact ⟨h.of_rqState rfl rfl, rfl, rfl⟩

section Prepared

variable {d₀ : Dev} {bio : Bio} {alloc : Option (Int × Option WorkCb)}

theorem makeRequestPrepare_quiet (hprep : makeRequestPrepare d₀ bio alloc = some (r, d)) :
    Quiet r := by
  obtain ⟨⟨a, ha⟩, -, ht, -⟩ := makeRequestPrepare_flags hprep
  exact ⟨by simp [ha, RqState.localMask], by simp [ha, RqState.netMask], by simp [ha], ht⟩

/-- On a suspended device `__drbd_make_request` hands `out:` the request `POSTPONED` with
`NET_DONE` clear, so a request fresh from allocation always fails the check of
`req_may_be_completed` on a request pushed back for retry. -/
theorem makeRequestChecks_suspended (hprep : makeRequestPrepare d₀ bio alloc = some (r, d))
    (hs : d.suspended = true) : makeRequestChecks nc r d = false := by
  obtain ⟨⟨a, ha⟩, hm, -⟩ := makeRequestPrepare_flags hprep
  simp [makeRequestChecks, hs, reqMayBeCompletedAsserts, ha, hm]

/-- The checks `__drbd_make_request` runs under `req_lock` on a request fresh from allocation
(those of the events it hands the request, `D_ASSERT(!(remote && send_oos))` of
`drbd_process_write_request`, and those of `req_may_be_completed` at `out:`) hold exactly when
the device is not suspended, as long as the first peer device has an inconsistent disk in
`L_AHEAD` and `L_WF_BITMAP_S`. -/
theorem make_request_checks_iff_not_suspended
    (hprep : makeRequestPrepare d₀ bio alloc = some (r, d))
    (hp : ∀ q ∈ d.peers.head?, q.OosInconsistent) :
    makeRequestChecks nc r d = !d.suspended := by
  have hq := makeRequestPrepare_quiet hprep
  have hi := (makeRequestPrepare_flags hprep).2.2.2.1
  cases hs : d.suspended
  · unfold makeRequestChecks
    rw [if_neg (by simp [hs])]
    dsimp only
    split_ifs with hw hno
    · exact makeRequestRouteChecks_ok hq (fun _ => hp) (absurd hw)
    all_goals obtain ⟨hq', hi', hr'⟩ :=
      findPeerDeviceForRead_quiet { d with inFlight := d.inFlight + 1 } hq
    · exact reqMayBeCompletedAsserts_quiet hq' fun _ => hi'.trans hi
    · refine makeRequestRouteChecks_ok hq' (fun h => absurd (hr'.symm.trans h) hw) fun _ => ?_
      cases hx : (findPeerDeviceForRead r { d with inFlight := d.inFlight + 1 }).1 <;> simp_all
  · exact makeRequestChecks_suspended hprep hs

theorem make_request_checks_write4k :
    makeRequestPrepare devOnePeer write4k (some (1234, none)) =
        some (write4kPrepared, { devOnePeer with localCnt := 1 }) ∧
      (∀ q ∈ ({ devOnePeer with localCnt := 1 } : Dev).peers.head?, q.OosInconsistent) ∧
      makeRequestChecks protoC write4kPrepared { devOnePeer with localCnt := 1 } =
        !({ devOnePeer with localCnt := 1 } : Dev).suspended := by
  refine ⟨?h₁, ?h₂, make_request_checks_iff_not_suspended ?h₁ ?h₂⟩
  · decide
  · simp [devOnePeer, peerUpToDate, PeerDevice.OosInconsistent, drbdShouldSendOutOfSync]

end Prepared

end Router

/-- A request whose local I/O was aborted while still pending, and that `req_may_be_completed`
pushes back for retry, always fails the second check: `LOCAL_PENDING` is still set. -/
theorem reqMayBeCompletedAsserts_aborted {r : Req} (hp : r.rqState.localPending = true)
    (ha : r.rqState.localAborted = true) (hq : r.rqState.netQueued = false)
    (hn : r.rqState.netPending = false) (hm : r.masterBio = true)
    (hpost : (r.rqState.postponed || (!(r.rqState.localOk || r.rqState.netOk) &&
      decide (r.rw = .read) && r.inTl)) = true) :
    reqMayBeCompletedAsserts r = false := by
  simp only [reqMayBeCompletedAsserts, hp, ha, hq, hn, hm, hpost]
  simp

/-- `read4k` on a device whose read balancing prefers the peer: `find_peer_device_for_read`
picks the up-to-date peer and keeps `private_bio`, so the read is sent and submitted. -/
def read4kBothRouted : RouteResult :=
  makeRequestLocked protoC (drbdReqNew read4k 1234 none)
    { devOnePeer with localCnt := 1, readBalancing := .preferRemote }

/-- `ABORT_DISK_IO` on the local-only `read4k` fails the checks of `req_may_be_completed`; a
local read error on the read that also went to the peer fails the check of
`READ_COMPLETED_WITH_ERROR`. -/
theorem request_checks_fail_on_abort_and_dual_read :
    valid protoC [.ev .abortDiskIo] read4kRouted.req read4kRouted.dev = true ∧
      (Input.ev .abortDiskIo).checks protoC read4kRouted.req read4kRouted.dev = false ∧
      read4kBothRouted.submitted = true ∧ read4kBothRouted.req.rqState.netPending = true ∧
      valid protoC [.endio (-eioErrno)] read4kBothRouted.req read4kBothRouted.dev = true ∧
      (Input.endio (-eioErrno)).checks protoC read4kBothRouted.req read4kBothRouted.dev =
        false := by
  decide

end Drbd
