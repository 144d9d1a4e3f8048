import Drbd.ReqCompletion

/-! The error a master bio is handed out with. `req_may_be_completed` reports success when
`LOCAL_OK` or `NET_OK` is set and otherwise `PTR_ERR(req->private_bio)`, or `-EIO` when that is
zero. The report is as true as those two inputs. `DISCARD_WRITE` falls through to `ack_common`,
which sets `NET_OK` for a write the peer discarded. `ABORT_DISK_IO` lets a request complete
while the backing device still owns `private_bio`, so the error is the bio's address. -/
namespace Drbd

/-- The error `req_may_be_completed` puts in `m->error`:
`ok ? 0 : (PTR_ERR(req->private_bio) ?: -EIO)`. -/
def Req.masterError (r : Req) : Int :=
  if r.rqState.localOk || r.rqState.netOk then 0
  else if r.privateBio.ptrErr ≠ 0 then r.privateBio.ptrErr else -eioErrno

/-- A step reports, with any master bio it hands out, the error the request it leaves implies. -/
def ErrorOk (x : ModResult) : Prop := ∀ e, x.m = some e → e = x.req.masterError

theorem reqMayBeDone_masterError (d : Dev) (r : Req) :
    (reqMayBeDone d r).masterError = r.masterError := by
  unfold reqMayBeDone; split_ifs <;> rfl

theorem completeMaster_errorOk (r : Req) (d : Dev) :
    ∀ e, (completeMaster r d).2.2 = some e → e = (completeMaster r d).1.masterError := by
  intro e h
  simp only [completeMaster] at h ⊢
  split at h
  · cases h
  · rename_i hp
    cases h
    rw [if_neg hp]
    rfl

theorem reqMayBeCompleted_errorOk (r : Req) (d : Dev) :
    ErrorOk (.ofTriple (reqMayBeCompleted r d)) := by
  intro e h
  simp only [ModResult.ofTriple, reqMayBeCompleted] at h ⊢
  split_ifs at h ⊢
  rw [reqMayBeDone_masterError]
  exact completeMaster_errorOk r d e h

theorem reqMayBeCompletedNotSusp_errorOk (r : Req) (d : Dev) :
    ErrorOk (.ofTriple (reqMayBeCompletedNotSusp r d)) := by
  simp only [reqMayBeCompletedNotSusp]
  split_ifs
  · exact reqMayBeCompleted_errorOk r d
  · intro e h; cases h

theorem reqMod_errorOk (nc : NetConf) (e : Event) (r : Req) (d : Dev) :
    ErrorOk (reqMod nc e r d) := by
  cases e <;> simp only [reqMod, ackCommon] <;> (try split_ifs) <;> first
    | with_reducible exact reqMayBeCompletedNotSusp_errorOk _ _
    | with_reducible exact reqMayBeCompleted_errorOk _ _
    | (intro _ h; cases h)
    | (intro _ h; rw [barrierAcked_m] at h; cases h)

/-- Whenever an input hands out the master bio, the error is `0` exactly when the request has
`LOCAL_OK` or `NET_OK`, else what `private_bio` holds, else `-EIO`. -/
theorem step_errorOk (nc : NetConf) (i : Input) (r : Req) (d : Dev) :
    ErrorOk (step nc i r d) := by
  cases i with
  | ev e => simp only [step, deliver]; split_ifs <;> exact reqMod_errorOk _ _ _ _
  | endio error => exact reqMod_errorOk _ _ _ _
  | suspend | resume => intro e h; cases h

/-- The error of the first master bio handed out along a run. -/
def handedOutError (nc : NetConf) : List Input → Req → Dev → Option Int
  | [], _, _ => none
  | i :: is, r, d =>
    (step nc i r d).m <|> handedOutError nc is (step nc i r d).req (step nc i r d).dev

/-- `write4k` on a device with no peer device: submitted to the local disk alone. -/
def write4kLocal : RouteResult :=
  makeRequestLocked protoC write4kPrepared { devOnePeer with localCnt := 1, peers := [] }

/-- A protocol C write sent to the peer, failed by the local disk, and then discarded by the
peer. -/
def discardAfterError : List Input :=
  [.ev .handedOverToNetwork, .endio (-eioErrno), .ev .discardWrite]

/-- `ABORT_DISK_IO` on a write still owned by the backing device hands out the address of the
private bio as the error. A write that failed locally and that the peer discarded is reported
as a success. -/
theorem master_error_from_owned_bio_or_discard :
    valid protoC [.ev .abortDiskIo] write4kLocal.req write4kLocal.dev = true ∧
      write4kLocal.req.privateBio = .bio 1234 ∧
      (step protoC (.ev .abortDiskIo) write4kLocal.req write4kLocal.dev).m = some 1234 ∧
      valid protoC discardAfterError write4kRouted.req write4kRouted.dev = true ∧
      (run protoC discardAfterError write4kRouted.req write4kRouted.dev).1.rqState.localOk =
        false ∧
      handedOutError protoC discardAfterError write4kRouted.req write4kRouted.dev = some 0 := by
  decide

end Drbd
