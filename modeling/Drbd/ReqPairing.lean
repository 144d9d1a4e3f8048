import Drbd.ReqCompletion

/-! What `__drbd_make_request` takes and what it gives back on the path of a suspended device.
It ends the request at `out:` before `_drbd_start_io_acct`, yet `req_may_be_completed` still
runs `_drbd_end_io_acct` (the `in_flight` count of `complete_master_bio`). It drops the private
bio without `put_ldev`, so the local-disk reference `get_ldev` took is never given back. And
`_req_is_done` completes the activity-log extent of a write only when a local flag is set, so
the extent `drbd_al_begin_io` took (`IN_ACT_LOG`) is not completed before the restart. -/
namespace Drbd

section Pairing

variable {nc : NetConf} {d₀ d : Dev} {bio : Bio} {alloc : Option (Int × Option WorkCb)} {r : Req}

theorem makeRequestPrepare_flags (hp : makeRequestPrepare d₀ bio alloc = some (r, d)) :
    (∃ a, r.rqState = { write := decide (bio.rw = .write), inActLog := a }) ∧
      r.masterBio = true ∧ r.inTree = none ∧ r.inTl = false ∧ r.rw = bio.rw := by
  cases alloc with
  | none => cases hp
  | some a =>
    simp only [makeRequestPrepare, Option.map_some', Option.some.injEq] at hp
    split_ifs at hp <;> simp only [Prod.mk.injEq] at hp <;> obtain ⟨rfl, rfl⟩ := hp <;>
      simp_all [drbdReqNew]

theorem completeMaster_postponed (d : Dev) (hp : r.rqState.postponed = true) :
    completeMaster r d = ({ r with inTree := none, rqState := { r.rqState with postponed := true } },
      { (if r.rw = .write ∧ r.epoch = d.currentTleNr then startNewTlEpoch d else d) with
        inFlight := d.inFlight - 1 }, none) := by
  simp only [completeMaster, hp, Bool.true_or, if_true]
  split_ifs <;> rfl

theorem reqMayBeCompleted_postponed (d : Dev) (hp : r.rqState.postponed = true)
    (hm : r.masterBio = true) (hl : r.rqState.localMask = false) (hn : r.rqState.netMask = false) :
    reqMayBeCompleted r d = (reqIsDone (completeMaster r d).2.1 (completeMaster r d).1,
      (completeMaster r d).2.1, none) := by
  simp only [RqState.localMask, RqState.netMask, Bool.or_eq_false_iff] at hl hn
  simp only [reqMayBeCompleted, reqMayBeDone, completeMaster_postponed d hp]
  simp [hl, hn, hm, RqState.netMask]

/-- On a suspended device the router ends the request without starting its I/O accounting but
ends it all the same (`in_flight` drops by one), drops the private bio without giving back its
local-disk reference (`local_cnt` stays), and destroys the request for a restart without
completing its activity-log extent. -/
theorem makeRequestLocked_suspended (hp : makeRequestPrepare d₀ bio alloc = some (r, d))
    (hs : d.suspended = true) :
    (makeRequestLocked nc r d).dev.inFlight = d.inFlight - 1 ∧
      (makeRequestLocked nc r d).dev.localCnt = d.localCnt ∧
      (makeRequestLocked nc r d).req.privateBio = .none ∧
      (makeRequestLocked nc r d).req.done =
        some ⟨decide (bio.rw = .write), false, false, true⟩ := by
  obtain ⟨⟨a, hst⟩, hm, -, -, -⟩ := makeRequestPrepare_flags hp
  have hc := reqMayBeCompleted_postponed
    (r := { r with rqState := { r.rqState with postponed := true }, privateBio := .none }) d rfl hm
    (by simp [hst, RqState.localMask]) (by simp [hst, RqState.netMask])
  simp only [makeRequestLocked, hs, if_true, makeRequestOut, hc]
  rw [completeMaster_postponed d rfl]
  split_ifs <;> simp [reqIsDone, hst, startNewTlEpoch, RqState.localMask]

end Pairing

/-- `devOnePeer`, suspended. -/
def devSuspended : Dev := { devOnePeer with localCnt := 1, suspended := true }

theorem makeRequestLocked_suspended_write4k :
    makeRequestPrepare { devOnePeer with suspended := true } write4k (some (1234, none)) =
        some (write4kPrepared, devSuspended) ∧ devSuspended.suspended = true ∧
      (makeRequestLocked protoC write4kPrepared devSuspended).dev.inFlight =
          devSuspended.inFlight - 1 ∧
        (makeRequestLocked protoC write4kPrepared devSuspended).dev.localCnt =
          devSuspended.localCnt ∧
        (makeRequestLocked protoC write4kPrepared devSuspended).req.privateBio = .none ∧
        (makeRequestLocked protoC write4kPrepared devSuspended).req.done =
          some ⟨decide (write4k.rw = .write), false, false, true⟩ :=
  have hp : makeRequestPrepare { devOnePeer with suspended := true } write4k (some (1234, none)) =
      some (write4kPrepared, devSuspended) := by decide
  ⟨hp, rfl, makeRequestLocked_suspended hp rfl⟩

/-- `write4k` submitted while the device is suspended: its I/O accounting ends though it never
started, the local-disk reference taken for it is still held after it is destroyed, and its
activity-log extent is not completed. -/
theorem suspended_write_unpaired :
    makeRequestPrepare devOnePeer write4k (some (1234, none)) =
        some (write4kPrepared, { devOnePeer with localCnt := 1 }) ∧
      devOnePeer.localCnt = 0 ∧ devOnePeer.inFlight = 0 ∧
      write4kPrepared.rqState.inActLog = true ∧
      (makeRequestLocked protoC write4kPrepared devSuspended).dev.inFlight = -1 ∧
      (makeRequestLocked protoC write4kPrepared devSuspended).dev.localCnt = 1 ∧
      (makeRequestLocked protoC write4kPrepared devSuspended).req.privateBio = .none ∧
      (makeRequestLocked protoC write4kPrepared devSuspended).req.done =
        some ⟨true, false, false, true⟩ := by
  decide

end Drbd
