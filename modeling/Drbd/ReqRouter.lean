import Drbd.ReqMod

/-! The request router of `drbd_req.c`: `__drbd_make_request` with its helpers for reads
(`drbd_may_do_local_read`, `remote_due_to_read_balancing`, `find_peer_device_for_read`) and
writes (`conn_check_congested`, `drbd_should_do_remote`, `drbd_should_send_out_of_sync`,
`drbd_process_write_request`). The function is cut where it takes `req_lock`: the conflict
wait of `complete_conflicting_writes` lies between the two parts and is modelled with the
submitters in `ReqSystem`. -/
namespace Drbd

/-- The upper-layer bio handed to `__drbd_make_request`. -/
structure Bio where
  rw : Rw
  sector : Nat
  size : Nat
  deriving DecidableEq, Repr

/-- `drbd_req_new`: `ptr` is the address of the private clone and `cb` the value `w.cb`
keeps from the mempool, which `drbd_req_new` does not initialise. -/
def drbdReqNew (bio : Bio) (ptr : Int) (cb : Option WorkCb) : Req where
  rqState := { write := decide (bio.rw = .write) }
  rw := bio.rw
  masterBio := true
  privateBio := .bio ptr
  epoch := 0
  sector := bio.sector
  size := bio.size
  inTree := none
  waiting := false
  wCb := cb
  wOn := []
  inTl := false
  done := none

/-- Modelled from the spec: `BM_SECT_TO_BIT`, one bitmap bit per 4 KiB block. -/
def bmSectToBit (s : Nat) : Nat := s / 8

/-- Modelled from the spec: `drbd_bm_count_bits(sbnr, ebnr)`, the set bits in `[sbnr, ebnr]`. -/
def bmCountBits (p : PeerDevice) (sbnr ebnr : Nat) : Nat :=
  ((List.range' sbnr (ebnr + 1 - sbnr)).filter (· ∈ p.bitmap)).length

/-- Modelled from the spec: `drbd_set_out_of_sync(peer_device, sector, size)` sets the bits of
the range and returns how many of them were clear. -/
def drbdSetOutOfSync (p : PeerDevice) (sector size : Nat) : PeerDevice × Nat :=
  let fresh := (List.range' (bmSectToBit sector)
    (bmSectToBit (sector + size / 512 - 1) + 1 - bmSectToBit sector)).filter (· ∉ p.bitmap)
  ({ p with bitmap := p.bitmap ++ fresh }, fresh.length)

/-- `drbd_may_do_local_read`. -/
def drbdMayDoLocalRead (d : Dev) (sector size : Nat) : Bool :=
  if d.diskState = .upToDate then true
  else if d.diskState ≠ .inconsistent then false
  else
    let esector := sector + size / 512 - 1
    d.peers.all fun p => bmCountBits p (bmSectToBit sector) (bmSectToBit esector) = 0

/-- `remote_due_to_read_balancing`; round robin flips the `READ_BALANCE_RR` bit. -/
def remoteDueToReadBalancing (d : Dev) (p : PeerDevice) (sector : Nat) :
    ReadBalancing → Bool × Dev
  | .congestedRemote => (d.backingCongested, d)
  | .leastPending => (decide (p.apPendingCnt + p.rsPendingCnt < d.localCnt), d)
  | .striping k => (decide ((sector >>> (k.val + 6)) % 2 = 1), d)
  | .roundRobin => (d.readBalanceRr, { d with readBalanceRr := !d.readBalanceRr })
  | .preferRemote => (true, d)
  | .preferLocal => (false, d)

/-- The peer loop of `find_peer_device_for_read`, returning the index of the chosen peer. -/
def findPeerLoop (r : Req) : List PeerDevice → Nat → Dev → Option Nat × Dev
  | [], _, d => (none, d)
  | p :: ps, i, d =>
    if p.diskState ≠ .upToDate then findPeerLoop r ps (i + 1) d
    else if !r.privateBio.isSome then (some i, d)
    else
      let (b, d) := remoteDueToReadBalancing d p r.sector d.readBalancing
      if b then (some i, d) else findPeerLoop r ps (i + 1) d

/-- `find_peer_device_for_read`: drop the private bio when the local copy is not good, then
pick a peer or submit locally. -/
def findPeerDeviceForRead (r : Req) (d : Dev) : Option Nat × Req × Dev :=
  let drop := r.privateBio.isSome && !drbdMayDoLocalRead d r.sector r.size
  let r := if drop then { r with privateBio := .none } else r
  let d := if drop then { d with localCnt := d.localCnt - 1 } else d
  if d.readBalancing = .preferLocal ∧ r.privateBio.isSome then (none, r, d)
  else
    let x := findPeerLoop r d.peers 0 d
    (x.1, r, x.2)

/-- Modelled from the spec: the state engine is not under src/; pulling ahead moves the peer
device to `L_AHEAD`, and its disk becomes `D_INCONSISTENT` as a consequence (the comment of
`drbd_should_send_out_of_sync`). -/
def changeReplStateAhead (p : PeerDevice) : PeerDevice :=
  { p with replState := .ahead, diskState := .inconsistent }

/-- Modelled from the spec: a disconnect ends replication to the peer, whose disk becomes
unknown. -/
def changeCstateDisconnecting (p : PeerDevice) : PeerDevice :=
  { p with replState := .off, diskState := .unknown }

/-- `conn_check_congested` for the first peer device. -/
def connCheckCongested (d : Dev) (p : PeerDevice) : Bool × Dev :=
  match p.netConf with
  | none => (false, d)
  | some (oc, congFill, congExtents) =>
    if oc = .block ∨ p.agreedProVersion < 96 then (false, d)
    else if (congFill ≠ 0 ∧ (congFill : Int) ≤ d.apInFlight) ∨ congExtents ≤ d.actLogUsed then
      let d := if d.currentTleWrites ≠ 0 then startNewTlEpoch d else d
      (true, d.modFirstPeer
        (if oc = .pullAhead then changeReplStateAhead else changeCstateDisconnecting))
    else (false, d)

/-- `drbd_should_do_remote`. -/
def drbdShouldDoRemote (p : PeerDevice) : Bool :=
  p.diskState = .upToDate ∨ (p.diskState = .inconsistent ∧
    ReplState.wfBitmapT.toNat ≤ p.replState.toNat ∧ p.replState.toNat < ReplState.ahead.toNat)

/-- `drbd_should_send_out_of_sync`. -/
def drbdShouldSendOutOfSync (p : PeerDevice) : Bool :=
  p.replState = .ahead ∨ p.replState = .wfBitmapS

/-- The mirror branch of `drbd_process_write_request`: `TO_BE_SENT`, insertion into
`write_requests`, `QUEUE_FOR_NET_WRITE`. -/
def processRemote (nc : NetConf) (r : Req) (d : Dev) : Req × Dev :=
  let x := reqMod nc .toBeSent r d
  let y := reqMod nc .queueForNetWrite { x.req with inTree := some .writeRequests } x.dev
  (y.req, y.dev)

/-- The body of the peer loop of `drbd_process_write_request` for the first peer device,
once `remote` is known; both of its branches end in the loop's `break`. -/
def processWritePeer (nc : NetConf) (r : Req) (d : Dev) (remote : Bool) : Nat × Req × Dev :=
  match d.peers with
  | [] => (0, r, d)
  | q :: qs =>
    if !remote && !drbdShouldSendOutOfSync q then (0, r, d)
    else if remote then
      let x := processRemote nc r d
      (1, x.1, x.2)
    else
      let oos := drbdSetOutOfSync q r.sector r.size
      let d := { d with peers := oos.1 :: qs }
      if oos.2 ≠ 0 then
        let x := reqMod nc .queueForSendOos r d
        (0, x.req, x.dev)
      else (0, r, d)

/-- `drbd_process_write_request`. Its loop over the peer devices stops after the first one in
either branch, so only `first_peer_device` is ever considered. -/
def drbdProcessWriteRequest (nc : NetConf) (r : Req) (d : Dev) : Nat × Req × Dev :=
  match d.peers with
  | [] => (0, r, d)
  | p :: _ =>
    if drbdShouldDoRemote p then
      let d := (connCheckCongested d p).2
      processWritePeer nc r d (d.peers.head?.any drbdShouldDoRemote)
    else processWritePeer nc r d false

@[simp] theorem Dev.modFirstPeer_peers_tail (d : Dev) (f : PeerDevice → PeerDevice) :
    (d.modFirstPeer f).peers.tail = d.peers.tail := by
  simp only [Dev.modFirstPeer]; cases d.peers <;> rfl

theorem connCheckCongested_peers_tail (d : Dev) (p : PeerDevice) :
    (connCheckCongested d p).2.peers.tail = d.peers.tail := by
  unfold connCheckCongested
  split
  · rfl
  · split_ifs <;> simp [startNewTlEpoch]

theorem processRemote_peers_tail (nc : NetConf) (r : Req) (d : Dev) :
    (processRemote nc r d).2.peers.tail = d.peers.tail := by
  simp only [processRemote, reqMod]
  split_ifs <;> simp [startNewTlEpoch, Dev.addApPending]

theorem processWritePeer_peers_tail (nc : NetConf) (r : Req) (d : Dev) (remote : Bool) :
    (processWritePeer nc r d remote).2.2.peers.tail = d.peers.tail ∧
      (processWritePeer nc r d remote).1 ≤ 1 := by
  unfold processWritePeer
  dsimp only
  split
  · exact ⟨rfl, by omega⟩
  · rename_i heq
    split_ifs <;> simp [processRemote_peers_tail, reqMod, heq]

/-- `drbd_process_write_request` leaves every peer device but the first as it was, and counts at
most one connection: the loop's `break` ends it after the first peer device, so no other one
is sent the write or has its range marked out of sync. -/
theorem drbdProcessWriteRequest_other_peers (nc : NetConf) (r : Req) (d : Dev) :
    (drbdProcessWriteRequest nc r d).2.2.peers.tail = d.peers.tail ∧
      (drbdProcessWriteRequest nc r d).1 ≤ 1 := by
  unfold drbdProcessWriteRequest
  split
  · exact ⟨rfl, by omega⟩
  · split_ifs
    · obtain ⟨h1, h2⟩ := processWritePeer_peers_tail nc r (connCheckCongested d _).2
        (Option.any drbdShouldDoRemote (connCheckCongested d _).2.peers.head?)
      exact ⟨h1.trans (connCheckCongested_peers_tail _ _), h2⟩
    · exact processWritePeer_peers_tail nc r d false

/-- What a pass through `__drbd_make_request` leaves: the request and device, the error of
the master bio it completed itself (if any), and whether it submitted the private bio. -/
structure RouteResult where
  req : Req
  dev : Dev
  m : Option Int
  submitted : Bool

/-- The part of `__drbd_make_request` before `req_lock`: allocation, the local-disk reference
and the activity log. `alloc` is the mempool's answer: `none` ends the bio with `-ENOMEM`. -/
def makeRequestPrepare (d : Dev) (bio : Bio) (alloc : Option (Int × Option WorkCb)) :
    Option (Req × Dev) :=
  alloc.map fun (ptr, cb) =>
    let r := drbdReqNew bio ptr cb
    let (r, d) := if d.ldevIfState .inconsistent then (r, { d with localCnt := d.localCnt + 1 })
      else ({ r with privateBio := .none }, d)
    let r := if bio.rw = .write ∧ r.privateBio.isSome ∧ !d.alSuspended then
      { r with rqState := { r.rqState with inActLog := true } } else r
    (r, d)

/-- The `out:` label of `__drbd_make_request`. -/
def makeRequestOut (r : Req) (d : Dev) : RouteResult :=
  let x := reqMayBeCompleted r d
  ⟨x.1, x.2.1, x.2.2, false⟩

@[simp] theorem makeRequestOut_req (r : Req) (d : Dev) :
    (makeRequestOut r d).req = (reqMayBeCompleted r d).1 := rfl

@[simp] theorem makeRequestOut_m (r : Req) (d : Dev) :
    (makeRequestOut r d).m = (reqMayBeCompleted r d).2.2 := rfl

/-- The end of `__drbd_make_request`: submit the private bio if there is one, else `out:`. -/
def makeRequestSubmit (nc : NetConf) (r : Req) (d : Dev) : RouteResult :=
  if r.privateBio.isSome then
    let x := reqMod nc .toBeSubmitted r d
    ⟨x.req, x.dev, none, true⟩
  else makeRequestOut r d

/-- `__drbd_make_request` from the epoch stamp on; `peer` is the read source chosen before. -/
def makeRequestRoute (nc : NetConf) (r : Req) (d : Dev) (peer : Option Nat) : RouteResult :=
  let r := { r with epoch := d.currentTleNr, inTl := true }
  let d := if r.rw = .write then { d with currentTleWrites := d.currentTleWrites + 1 } else d
  let x : Req × Dev :=
    if r.rw = .write then (drbdProcessWriteRequest nc r d).2
    else if peer.isSome then
      let y := reqMod nc .toBeSent r d
      let y := reqMod nc .queueForNetRead y.req y.dev
      (y.req, y.dev)
    else (r, d)
  makeRequestSubmit nc x.1 x.2

/-- `__drbd_make_request` after `complete_conflicting_writes`, all under `req_lock`. -/
def makeRequestLocked (nc : NetConf) (r : Req) (d : Dev) : RouteResult :=
  if d.suspended then
    makeRequestOut { r with rqState := { r.rqState with postponed := true }, privateBio := .none } d
  else
    let d := { d with inFlight := d.inFlight + 1 }
    if r.rw = .write then makeRequestRoute nc r d none
    else
      let x := findPeerDeviceForRead r d
      if x.1.isNone ∧ !x.2.1.privateBio.isSome then makeRequestOut x.2.1 x.2.2
      else makeRequestRoute nc x.2.1 x.2.2 x.1

end Drbd
