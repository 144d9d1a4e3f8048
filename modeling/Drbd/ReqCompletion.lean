import Drbd.ReqLifecycle
import Mathlib.Tactic.ByContra

/-! When the master bio of a request that went to the peer is handed out: only past the guards
of `req_may_be_completed`, and only after the peer side was resolved by the acknowledgement
of the wire protocol, a discard, a data reply, a negative ack or the loss of the
connection. -/
namespace Drbd

/-- The inputs that resolve the peer side of a request under protocol `p`: the acknowledgement
the protocol waits for, a discard, a data reply, a negative ack or the loss of the connection.
Only after one of them may `req_may_be_completed` hand out the master bio of a request that
went to the peer. -/
def Input.resolves (p : Protocol) (write : Bool) : Input → Bool
  | .ev .writeAckedByPeer | .ev .writeAckedByPeerAndSis => write && p = .c
  | .ev .recvAckedByPeer => write && p = .b
  | .ev .handedOverToNetwork => write && p = .a
  | .ev .discardWrite => write
  | .ev .dataReceived => !write
  | .ev .negAcked | .ev .connectionLostWhilePending => true
  | _ => false

/-- A request that went to the peer under protocol `p`: its `EXP_*` bits name `p`, and its
`RQ_WRITE` bit is the direction of its master bio. -/
structure SentUnder (p : Protocol) (r : Req) : Prop where
  expWriteAck : r.rqState.expWriteAck = decide (p = .c)
  expReceiveAck : r.rqState.expReceiveAck = decide (p = .b)
  write : r.rqState.write = decide (r.rw = .write)

theorem modFlags_exp (nc : NetConf) {e : Event} (r : Req) (he : e ≠ .toBeSent) :
    (modFlags nc e r).expWriteAck = r.rqState.expWriteAck ∧
      (modFlags nc e r).expReceiveAck = r.rqState.expReceiveAck ∧
      (modFlags nc e r).write = r.rqState.write := by
  cases e
  case toBeSent => exact absurd rfl he
  all_goals first
    | exact ⟨rfl, rfl, rfl⟩
    | (simp only [modFlags, barrierFlags]; split_ifs <;> exact ⟨rfl, rfl, rfl⟩)

theorem reqMod_sentUnder {nc : NetConf} {e : Event} {p : Protocol} {r : Req} (d : Dev)
    (h : SentUnder p r) (he : e ≠ .toBeSent) : SentUnder p (reqMod nc e r d).req := by
  obtain ⟨b, hb⟩ := reqMod_rqState nc e r d
  obtain ⟨h1, h2, h3⟩ := modFlags_exp nc r he
  exact ⟨by simp [hb, h1, h.expWriteAck], by simp [hb, h2, h.expReceiveAck],
    by simp [hb, h3, h.write]⟩

theorem step_sentUnder {nc : NetConf} {p : Protocol} {i : Input} {r : Req} {d : Dev}
    (h : SentUnder p r) (hpre : i.pre r d = true) : SentUnder p (step nc i r d).req := by
  cases i with
  | ev e =>
    have he : e ≠ .toBeSent := by rintro rfl; simp [Input.pre, eventPre] at hpre
    apply reqMod_sentUnder d _ he
    split_ifs
    · exact ⟨h.expWriteAck, h.expReceiveAck, h.write⟩
    · exact h
  | endio error =>
    exact reqMod_sentUnder (r := { r with privateBio := .err error }) d
      ⟨h.expWriteAck, h.expReceiveAck, h.write⟩ (by unfold endioEvent; split_ifs <;> simp)
  | suspend => exact h
  | resume => exact h

theorem modFlags_netPending_cleared {nc : NetConf} {e : Event} {r : Req}
    (hp : r.rqState.netPending = true) (h : (modFlags nc e r).netPending = false) :
    e = .connectionLostWhilePending ∨ e = .negAcked ∨ e = .discardWrite ∨
      e = .writeAckedByPeerAndSis ∨ e = .writeAckedByPeer ∨ e = .recvAckedByPeer ∨
      e = .dataReceived ∨ (e = .handedOverToNetwork ∧ r.rw = .write ∧
        r.rqState.expReceiveAck = false ∧ r.rqState.expWriteAck = false) := by
  cases e <;> simp only [modFlags, barrierFlags] at h <;> (try split_ifs at h) <;> simp_all

theorem step_netPending {nc : NetConf} {p : Protocol} {i : Input} {r : Req} {d : Dev}
    (h : SentUnder p r) (hpre : i.pre r d = true) (hp : r.rqState.netPending = true)
    (hi : i.resolves p (decide (r.rw = .write)) = false) :
    (step nc i r d).req.rqState.netPending = true := by
  obtain ⟨h1, h2, h3⟩ := h
  obtain ⟨b, hb⟩ := step_rqState nc i r d
  rw [hb]
  clear hb
  cases i with
  | ev e =>
    cases hm : (modFlags nc e r).netPending
    · rcases modFlags_netPending_cleared hp hm with rfl | rfl | rfl | rfl | rfl | rfl | rfl |
        ⟨rfl, hw, hr, hwa⟩
      all_goals simp_all [Input.pre, eventPre, Input.resolves]
      cases p <;> simp_all
    · exact hm
  | endio error => simp only [inputFlags, endioEvent]; split_ifs <;> simp [modFlags, hp]
  | suspend => exact hp
  | resume => exact hp

@[simp] theorem step_rw (nc : NetConf) (i : Input) (r : Req) (d : Dev) :
    (step nc i r d).req.rw = r.rw := by
  cases i <;> (simp only [step, deliver, reqMod_rw]; try split_ifs) <;> rfl

theorem step_mayComplete {nc : NetConf} {i : Input} {r : Req} {d : Dev} {x : Int}
    (h : (step nc i r d).m = some x) : (step nc i r d).req.rqState.mayComplete = true := by
  cases i with
  | ev e => exact reqMod_mayComplete h
  | endio error => exact reqMod_mayComplete h
  | suspend => simp [step] at h
  | resume => simp [step] at h

theorem run_netPending {nc : NetConf} {p : Protocol} :
    ∀ {ins : List Input} {r : Req} {d : Dev}, SentUnder p r → valid nc ins r d = true →
      r.rqState.netPending = true → (∀ j ∈ ins, j.resolves p (decide (r.rw = .write)) = false) →
      SentUnder p (run nc ins r d).1 ∧ (run nc ins r d).1.rqState.netPending = true ∧
        (run nc ins r d).1.rw = r.rw
  | [], _, _, h, _, hp, _ => ⟨h, hp, rfl⟩
  | i :: ins, r, d, h, hv, hp, hi => by
    simp only [valid, Bool.and_eq_true] at hv
    have hr := step_rw nc i r d
    obtain ⟨h', hp', hrw⟩ := run_netPending (step_sentUnder h hv.1) hv.2
      (step_netPending h hv.1 hp (hi i (by simp)))
      (fun j hj => by rw [hr]; exact hi j (by simp [hj]))
    exact ⟨h', hp', hrw.trans hr⟩

theorem handed_out_after_resolution {nc : NetConf} {p : Protocol} {ins : List Input}
    {i : Input} {r : Req} {d : Dev} {x : Int} (h : SentUnder p r)
    (hp : r.rqState.netPending = true) (hv : valid nc (ins ++ [i]) r d = true)
    (hm : (step nc i (run nc ins r d).1 (run nc ins r d).2).m = some x) :
    (step nc i (run nc ins r d).1 (run nc ins r d).2).req.rqState.mayComplete = true ∧
      ∃ j ∈ ins ++ [i], j.resolves p (decide (r.rw = .write)) = true := by
  have hmc := step_mayComplete hm
  refine ⟨hmc, ?_⟩
  by_contra hno
  simp only [not_exists, not_and, Bool.not_eq_true] at hno
  rw [valid_append] at hv
  simp only [Bool.and_eq_true, valid] at hv
  obtain ⟨h', hp', hrw⟩ := run_netPending h hv.1 hp (fun j hj => hno j (by simp [hj]))
  have : (step nc i _ (run nc ins r d).2).req.rqState.netPending = true :=
    step_netPending h' hv.2.1 hp' (by rw [hrw]; exact hno i (by simp))
  simp [RqState.mayComplete, this] at hmc

/-- The router's view of the expectation bits: clear until `TO_BE_SENT`, then naming `p`. -/
structure RouterInv (p : Protocol) (r : Req) : Prop where
  expWriteAck : r.rqState.expWriteAck = (r.rqState.netPending && decide (p = .c))
  expReceiveAck : r.rqState.expReceiveAck = (r.rqState.netPending && decide (p = .b))
  write : r.rqState.write = decide (r.rw = .write)

theorem RouterInv.of_rqState {p : Protocol} {r r' : Req} (h : RouterInv p r)
    (hs : r'.rqState = r.rqState) (hw : r'.rw = r.rw) : RouterInv p r' := by
  obtain ⟨h1, h2, h3⟩ := h
  exact ⟨hs ▸ h1, hs ▸ h2, hs ▸ hw ▸ h3⟩

theorem RouterInv.sentUnder {p : Protocol} {r : Req} (h : RouterInv p r)
    (hp : r.rqState.netPending = true) : SentUnder p r :=
  ⟨by simp [h.expWriteAck, hp], by simp [h.expReceiveAck, hp], h.write⟩

theorem reqMod_routerInv {nc : NetConf} {e : Event} {r : Req} (d : Dev)
    (he : e = .toBeSent ∨ e = .toBeSubmitted ∨ e = .queueForNetRead ∨ e = .queueForNetWrite ∨
      e = .queueForSendOos)
    (h : RouterInv nc.wireProtocol r) : RouterInv nc.wireProtocol (reqMod nc e r d).req := by
  obtain ⟨b, hb⟩ := reqMod_rqState nc e r d
  obtain ⟨h1, h2, h3⟩ := h
  constructor <;> simp only [hb, reqMod_rw] <;>
    rcases he with rfl | rfl | rfl | rfl | rfl <;> simp_all [modFlags]

/-- What the router hands back keeps `RouterInv`, and a request it leaves waiting for the peer
keeps its master bio. -/
structure RouteSound (p : Protocol) (x : RouteResult) : Prop where
  inv : RouterInv p x.req
  keeps : x.req.rqState.netPending = true → x.m = none

theorem makeRequestOut_sound {p : Protocol} {r : Req} {d : Dev} (h : RouterInv p r) :
    RouteSound p (makeRequestOut r d) := by
  obtain ⟨b, hb⟩ := reqMayBeCompleted_rqState r d
  refine ⟨⟨?_, ?_, ?_⟩, fun hp => ?_⟩ <;>
    simp only [makeRequestOut_req, makeRequestOut_m, hb, reqMayBeCompleted_rw] at *
  · exact h.expWriteAck
  · exact h.expReceiveAck
  · exact h.write
  · cases hm : (reqMayBeCompleted r d).2.2 with
    | none => rfl
    | some x => simpa [RqState.mayComplete, hb, hp] using reqMayBeCompleted_guards hm

section Router

variable {nc : NetConf} {r : Req}

theorem processRemote_routerInv (d : Dev) (h : RouterInv nc.wireProtocol r) :
    RouterInv nc.wireProtocol (processRemote nc r d).1 := by
  unfold processRemote
  dsimp only
  exact reqMod_routerInv _ (by simp) ((reqMod_routerInv d (by simp) h).of_rqState rfl rfl)

theorem processWritePeer_routerInv (d : Dev) (remote : Bool) (h : RouterInv nc.wireProtocol r) :
    RouterInv nc.wireProtocol (processWritePeer nc r d remote).2.1 := by
  unfold processWritePeer
  dsimp only
  split
  · exact h
  · split_ifs
    · exact h
    · exact processRemote_routerInv d h
    · exact reqMod_routerInv _ (by simp) h
    · exact h

theorem drbdProcessWriteRequest_routerInv (d : Dev) (h : RouterInv nc.wireProtocol r) :
    RouterInv nc.wireProtocol (drbdProcessWriteRequest nc r d).2.1 := by
  unfold drbdProcessWriteRequest
  split
  · exact h
  · split_ifs <;> exact processWritePeer_routerInv _ _ h

theorem makeRequestSubmit_sound (d : Dev) (h : RouterInv nc.wireProtocol r) :
    RouteSound nc.wireProtocol (makeRequestSubmit nc r d) := by
  unfold makeRequestSubmit
  split_ifs
  · exact ⟨reqMod_routerInv d (by simp) h, fun _ => rfl⟩
  · exact makeRequestOut_sound h

theorem makeRequestRoute_sound (d : Dev) (peer : Option Nat) (h : RouterInv nc.wireProtocol r) :
    RouteSound nc.wireProtocol (makeRequestRoute nc r d peer) := by
  unfold makeRequestRoute
  apply makeRequestSubmit_sound
  dsimp only
  split_ifs
  · exact drbdProcessWriteRequest_routerInv _ (h.of_rqState rfl rfl)
  · exact reqMod_routerInv _ (by simp) (reqMod_routerInv _ (by simp) (h.of_rqState rfl rfl))
  · exact h.of_rqState rfl rfl

theorem findPeerDeviceForRead_routerInv {p : Protocol} (d : Dev) (h : RouterInv p r) :
    RouterInv p (findPeerDeviceForRead r d).2.1 := by
  unfold findPeerDeviceForRead
  dsimp only
  split_ifs <;> exact h.of_rqState rfl rfl

theorem makeRequestLocked_sound (d : Dev) (h : RouterInv nc.wireProtocol r) :
    RouteSound nc.wireProtocol (makeRequestLocked nc r d) := by
  unfold makeRequestLocked
  dsimp only
  split_ifs
  · exact makeRequestOut_sound ⟨h.1, h.2, h.3⟩
  · exact makeRequestRoute_sound _ _ h
  · exact makeRequestOut_sound (findPeerDeviceForRead_routerInv _ h)
  · exact makeRequestRoute_sound _ _ (findPeerDeviceForRead_routerInv _ h)

theorem makeRequestPrepare_routerInv {p : Protocol} {d d' : Dev} {bio : Bio} {alloc : Option (Int × Option WorkCb)}
    (h : makeRequestPrepare d bio alloc = some (r, d')) : RouterInv p r := by
  cases alloc with
  | none => cases h
  | some a =>
    simp only [makeRequestPrepare, Option.map_some', Option.some.injEq, Prod.mk.injEq] at h
    obtain ⟨rfl, -⟩ := h
    constructor <;> split_ifs <;> simp [drbdReqNew]

end Router

/-- A request that `__drbd_make_request` left waiting for the peer under the wire protocol of
`nc`: the router did not hand out its master bio, and along every valid run of later inputs,
from whatever state the device is in by then, every hand-out of it passes the guards of
`req_may_be_completed` and follows an input that resolved the peer side. -/
theorem sent_request_handed_out_after_resolution {nc : NetConf} {d₀ d' d₁ : Dev} {bio : Bio}
    {alloc : Option (Int × Option WorkCb)} {r₀ : Req} {o : RouteResult}
    (hprep : makeRequestPrepare d₀ bio alloc = some (r₀, d'))
    (ho : makeRequestLocked nc r₀ d₁ = o) (hsent : o.req.rqState.netPending = true) :
    o.m = none ∧ ∀ (d₂ : Dev) (ins : List Input) (i : Input) (x : Int),
      valid nc (ins ++ [i]) o.req d₂ = true →
      (step nc i (run nc ins o.req d₂).1 (run nc ins o.req d₂).2).m = some x →
      (step nc i (run nc ins o.req d₂).1 (run nc ins o.req d₂).2).req.rqState.mayComplete = true ∧
        ∃ j ∈ ins ++ [i], j.resolves nc.wireProtocol (decide (o.req.rw = .write)) = true := by
  subst ho
  have hs : RouteSound nc.wireProtocol (makeRequestLocked nc r₀ d₁) :=
    makeRequestLocked_sound d₁ (makeRequestPrepare_routerInv hprep)
  exact ⟨hs.keeps hsent, fun _ _ _ _ hv hm =>
    handed_out_after_resolution (hs.inv.sentUnder hsent) hsent hv hm⟩

/-- A device with one up-to-date, connected peer and nothing in flight. -/
def peerUpToDate : PeerDevice := ⟨.upToDate, .established, 0, 0, [], none, 100⟩

def devOnePeer : Dev :=
  ⟨7, 0, 0, 0, 0, 0, 0, .upToDate, false, [peerUpToDate], false, .preferLocal, false, false, 0⟩

def protoC : NetConf := ⟨.c, 1000⟩

def write4k : Bio := ⟨.write, 0, 4096⟩

/-- The write of `write4k` once `makeRequestPrepare` took its local-disk reference and its
activity-log extent. -/
def write4kPrepared : Req :=
  { drbdReqNew write4k 1234 none with rqState := { write := true, inActLog := true } }

theorem write4k_sent_handed_out_after_resolution :
    makeRequestPrepare devOnePeer write4k (some (1234, none)) =
        some (write4kPrepared, { devOnePeer with localCnt := 1 }) ∧
      (makeRequestLocked protoC write4kPrepared { devOnePeer with localCnt := 1 }).req.rqState.netPending
        = true ∧
      (makeRequestLocked protoC write4kPrepared { devOnePeer with localCnt := 1 }).m = none :=
  have hprep : makeRequestPrepare devOnePeer write4k (some (1234, none)) =
      some (write4kPrepared, { devOnePeer with localCnt := 1 }) := by decide
  have hsent : (makeRequestLocked protoC write4kPrepared
      { devOnePeer with localCnt := 1 }).req.rqState.netPending = true := by decide
  ⟨hprep, hsent, (sent_request_handed_out_after_resolution hprep rfl hsent).1⟩

/-- `x` hands out the master bio of a request that held it (`b`) at most once: only if the
request still had it, and the request `x` leaves has it exactly when it was not handed out. -/
structure HandsOut (b : Bool) (x : ModResult) : Prop where
  master : x.req.masterBio = (b && x.m.isNone)
  had : x.m.isSome → b = true

theorem HandsOut.stop {r : Req} {b : Bool} (d : Dev) (rv : ModRv) (h : r.masterBio = b) :
    HandsOut b ⟨r, d, none, rv⟩ := ⟨by simp [h], by simp⟩

theorem reqMayBeCompleted_handsOut (r : Req) (d : Dev) {b : Bool} (hb : r.masterBio = b) :
    HandsOut b (.ofTriple (reqMayBeCompleted r d)) := by
  subst hb
  simp only [reqMayBeCompleted]
  split_ifs with h1 h2 h3 h4
  iterate 3 exact ⟨by simp [ModResult.ofTriple], by simp [ModResult.ofTriple]⟩
  · exact ⟨by simp [ModResult.ofTriple, completeMaster_masterBio, h4], fun _ => h4⟩
  · exact ⟨by simp [ModResult.ofTriple, h4], by simp [ModResult.ofTriple]⟩

theorem reqMayBeCompletedNotSusp_handsOut (r : Req) (d : Dev) {b : Bool}
    (hb : r.masterBio = b) : HandsOut b (.ofTriple (reqMayBeCompletedNotSusp r d)) := by
  subst hb
  simp only [reqMayBeCompletedNotSusp]
  split_ifs
  · exact reqMayBeCompleted_handsOut r d rfl
  · exact ⟨by simp [ModResult.ofTriple], by simp [ModResult.ofTriple]⟩

theorem barrierAcked_handsOut (r : Req) (d : Dev) {b : Bool} (hb : r.masterBio = b) :
    HandsOut b (barrierAcked r d) := by
  subst hb
  simp only [barrierAcked]
  split_ifs <;> exact ⟨by simp, by simp⟩

theorem reqMod_handsOut (nc : NetConf) (e : Event) (r : Req) (d : Dev) {b : Bool}
    (hb : r.masterBio = b) : HandsOut b (reqMod nc e r d) := by
  subst hb
  cases e <;> simp only [reqMod, ackCommon] <;>
    repeat' (with_reducible first
    | exact reqMayBeCompletedNotSusp_handsOut _ _ rfl
    | exact reqMayBeCompleted_handsOut _ _ rfl
    | exact barrierAcked_handsOut _ _ rfl
    | exact HandsOut.stop _ _ rfl
    | split)

theorem step_handsOut (nc : NetConf) (i : Input) (r : Req) (d : Dev) :
    HandsOut r.masterBio (step nc i r d) := by
  cases i with
  | ev e => simp only [step, deliver]; split_ifs <;> exact reqMod_handsOut _ _ _ _ rfl
  | endio error => exact reqMod_handsOut _ _ _ _ rfl
  | suspend => exact ⟨by simp [step], by simp [step]⟩
  | resume => exact ⟨by simp [step], by simp [step]⟩

/-- How many inputs of a run hand out the master bio. -/
def handouts (nc : NetConf) : List Input → Req → Dev → Nat
  | [], _, _ => 0
  | i :: is, r, d =>
    (if (step nc i r d).m.isSome then 1 else 0) +
      handouts nc is (step nc i r d).req (step nc i r d).dev

/-- Along any run the master bio is handed out at most once, and exactly once if the request
no longer holds it at the end. -/
theorem handouts_add_masterBio (nc : NetConf) :
    ∀ (ins : List Input) (r : Req) (d : Dev),
      handouts nc ins r d + (run nc ins r d).1.masterBio.toNat = r.masterBio.toNat
  | [], _, _ => by simp [handouts, run]
  | i :: ins, r, d => by
    have ih := handouts_add_masterBio nc ins (step nc i r d).req (step nc i r d).dev
    obtain ⟨hm, hh⟩ := step_handsOut nc i r d
    simp only [handouts, run] at ih ⊢
    rw [hm] at ih
    cases h : (step nc i r d).m <;> cases hr : r.masterBio <;> simp_all

/-- `write4k` after the router: sent to the peer and submitted locally. -/
def write4kRouted : RouteResult :=
  makeRequestLocked protoC write4kPrepared { devOnePeer with localCnt := 1 }

def read4k : Bio := ⟨.read, 0, 4096⟩

/-- `read4k` after the router: read balancing prefers the up-to-date local disk, so the read
is only submitted locally. -/
def read4kRouted : RouteResult :=
  makeRequestLocked protoC (drbdReqNew read4k 1234 none) { devOnePeer with localCnt := 1 }

theorem read4k_stuck_after_read_error :
    makeRequestPrepare devOnePeer read4k (some (1234, none)) =
        some (drbdReqNew read4k 1234 none, { devOnePeer with localCnt := 1 }) ∧
      read4kRouted.m = none ∧
      valid protoC [.endio (-eioErrno)] read4kRouted.req read4kRouted.dev = true ∧
      (step protoC (.endio (-eioErrno)) read4kRouted.req read4kRouted.dev).dev.suspended = false ∧
      (step protoC (.endio (-eioErrno)) read4kRouted.req read4kRouted.dev).m = none ∧
      (step protoC (.endio (-eioErrno)) read4kRouted.req read4kRouted.dev).req.masterBio = true ∧
      (step protoC (.endio (-eioErrno)) read4kRouted.req read4kRouted.dev).req.rqState.mayComplete ∧
      (step protoC (.endio (-eioErrno)) read4kRouted.req read4kRouted.dev).req.rqState.postponed =
        false := by
  decide

end Drbd
