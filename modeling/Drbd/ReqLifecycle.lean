import Drbd.ReqRouter

/-! One request after its pass through the router: the inputs that reach it (the sender, the
ack receiver, the local completion, transfer-log walks, suspension of the device), the
preconditions of the event table of spec §4.2 under which they arrive, and runs of them. -/
namespace Drbd

/-- The events the sender emits after it took `req->w` off `sender_work` and ran `w.cb`. -/
def Event.fromSender : Event → Bool
  | .handedOverToNetwork | .oosHandedToNetwork | .sendFailed | .sendCanceled
  | .readRetryRemoteCanceled => true
  | _ => false

/-- The precondition column of the event table of spec §4.2, for the events that reach a
request after the router. The router's own events and the local completions (which arrive
through `endio`) are excluded. Sender events need `req->w` on `sender_work` with a matching
callback; peer replies need the request in the tree the ack receiver looks it up in, and
the positive ones the matching `EXP_*` bit; transfer-log walks reach requests in the log;
the frozen-I/O walks run while the device is suspended. -/
def eventPre (e : Event) (r : Req) (d : Dev) : Bool :=
  let s := r.rqState
  match e with
  | .toBeSent | .toBeSubmitted | .queueForNetRead | .queueForNetWrite | .queueForSendOos
  | .completedOk | .writeCompletedWithError | .readCompletedWithError
  | .readAheadCompletedWithError => false
  | .handedOverToNetwork =>
    r.wOn.contains .senderWork && (r.wCb = some .sendDblock || r.wCb = some .sendReadReq)
  | .oosHandedToNetwork => r.wOn.contains .senderWork && r.wCb = some .sendOutOfSync
  | .sendFailed | .sendCanceled | .readRetryRemoteCanceled => r.wOn.contains .senderWork
  | .recvAckedByPeer => s.write && s.expReceiveAck && r.inTree = some .writeRequests
  | .writeAckedByPeer | .writeAckedByPeerAndSis | .discardWrite | .postponeWrite =>
    s.write && s.expWriteAck && r.inTree = some .writeRequests
  | .negAcked => r.inTree = some (if s.write then .writeRequests else .readRequests)
  | .dataReceived => !s.write && r.inTree = some .readRequests
  | .abortDiskIo => s.localPending
  | .barrierAcked | .resend | .connectionLostWhilePending => r.inTl
  | .failFrozenDiskIo | .restartFrozenDiskIo => r.inTl && d.suspended

/-- An event reaching the request; the sender first unlinks `req->w` from `sender_work`. -/
def deliver (nc : NetConf) (e : Event) (r : Req) (d : Dev) : ModResult :=
  reqMod nc e (if e.fromSender then { r with wOn := r.wOn.erase .senderWork } else r) d

/-- Modelled from the spec: `drbd_request_endio` is not under src/. It stores
`ERR_PTR(error)` in `private_bio` and emits the local completion event for its outcome. -/
def endioEvent (r : Req) (error : Int) : Event :=
  if error = 0 then .completedOk
  else if r.rqState.write then .writeCompletedWithError
  else if r.rw = .read then .readCompletedWithError
  else .readAheadCompletedWithError

/-- Everything that can reach a request after the router. -/
inductive Input | ev (e : Event) | endio (error : Int) | suspend | resume
  deriving DecidableEq, Repr

/-- A destroyed request receives nothing; the local completion needs a bio in flight. -/
def Input.pre (i : Input) (r : Req) (d : Dev) : Bool :=
  r.done.isNone && match i with
  | .ev e => eventPre e r d
  | .endio _ => r.rqState.localPending
  | .suspend | .resume => true

def step (nc : NetConf) (i : Input) (r : Req) (d : Dev) : ModResult :=
  match i with
  | .ev e => deliver nc e r d
  | .endio error => reqMod nc (endioEvent r error) { r with privateBio := .err error } d
  | .suspend => ⟨r, { d with suspended := true }, none, .zero⟩
  | .resume => ⟨r, { d with suspended := false }, none, .zero⟩

/-- The request and device after the inputs, in order. -/
def run (nc : NetConf) : List Input → Req → Dev → Req × Dev
  | [], r, d => (r, d)
  | i :: is, r, d => run nc is (step nc i r d).req (step nc i r d).dev

/-- Every input meets its precondition when it arrives. -/
def valid (nc : NetConf) : List Input → Req → Dev → Bool
  | [], _, _ => true
  | i :: is, r, d => i.pre r d && valid nc is (step nc i r d).req (step nc i r d).dev

/-- The flags an input leaves, apart from `POSTPONED`. -/
def inputFlags (nc : NetConf) (r : Req) : Input → RqState
  | .ev e => modFlags nc e r
  | .endio error => modFlags nc (endioEvent r error) r
  | .suspend | .resume => r.rqState

theorem modFlags_deliver (nc : NetConf) (e : Event) (r : Req) :
    modFlags nc e (if e.fromSender then { r with wOn := r.wOn.erase .senderWork } else r) =
      modFlags nc e r := by
  split_ifs <;> rfl

theorem step_rqState (nc : NetConf) (i : Input) (r : Req) (d : Dev) :
    ∃ b, (step nc i r d).req.rqState = { inputFlags nc r i with postponed := b } := by
  cases i with
  | ev e => rw [inputFlags, ← modFlags_deliver]; exact reqMod_rqState nc e _ d
  | endio error => exact reqMod_rqState nc _ { r with privateBio := .err error } d
  | suspend => exact ⟨r.rqState.postponed, rfl⟩
  | resume => exact ⟨r.rqState.postponed, rfl⟩

theorem valid_append (nc : NetConf) (is js : List Input) (r : Req) (d : Dev) :
    valid nc (is ++ js) r d = (valid nc is r d && valid nc js (run nc is r d).1 (run nc is r d).2) := by
  induction is generalizing r d with
  | nil => simp [valid, run]
  | cons i is ih => simp [valid, run, ih, Bool.and_assoc]

end Drbd
