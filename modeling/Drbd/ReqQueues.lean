import Drbd.ReqDestroy

/-! The work item `req->w` and the sender queue. `NET_QUEUED` is meant to say that `req->w` is
on `sender_work`: every event that sets it queues the item, and every sender event, which takes
the item off the queue, clears it, so `NET_QUEUED` implies the item is queued. `RESEND` queues
the item without setting `NET_QUEUED`, so the converse fails. -/
namespace Drbd

/-- The work queues `__req_mod` puts `req->w` on. -/
def queuedOn (e : Event) (r : Req) : List WorkQueue :=
  match e with
  | .queueForNetRead | .queueForNetWrite | .queueForSendOos => [.senderWork]
  | .restartFrozenDiskIo => if r.rqState.localCompleted && r.masterBio then [.resourceWork] else []
  | .resend => if !r.rqState.netOk && r.wCb.isSome then [.senderWork] else []
  | _ => []

theorem barrierAcked_wOn (r : Req) (d : Dev) : (barrierAcked r d).req.wOn = r.wOn := by
  simp only [barrierAcked]; split_ifs <;> simp

theorem reqMod_wOn (nc : NetConf) (e : Event) (r : Req) (d : Dev) :
    (reqMod nc e r d).req.wOn = r.wOn ++ queuedOn e r := by
  cases e <;>
    simp only [reqMod, ackCommon, queuedOn, ModResult.ofTriple, barrierAcked_wOn,
      reqMayBeCompleted_wOn, reqMayBeCompletedNotSusp_wOn, List.append_nil] <;>
    (try split_ifs) <;> simp_all [barrierAcked_wOn]

/-- `NET_QUEUED` implies that `req->w` is on `sender_work`, and that the master bio is still
held: `req_may_be_completed` hands nothing out while the flag is set. -/
structure QueuedOnSender (r : Req) : Prop where
  queued : r.rqState.netQueued = true → .senderWork ∈ r.wOn
  held : r.rqState.netQueued = true → r.masterBio = true

theorem inputFlags_netQueued {nc : NetConf} {i : Input} {r : Req} {d : Dev}
    (hp : i.pre r d = true) (h : (inputFlags nc r i).netQueued = true) :
    r.rqState.netQueued = true := by
  cases i with
  | ev e =>
    simp only [Input.pre, Bool.and_eq_true] at hp
    cases e <;> simp only [inputFlags, modFlags, barrierFlags] at h <;> (try split_ifs at h) <;>
      simp_all [eventPre]
  | endio error =>
    simp only [inputFlags, endioEvent] at h
    split_ifs at h <;> exact h
  | suspend => exact h
  | resume => exact h

theorem modFlags_netQueued {nc : NetConf} {e : Event} {r : Req}
    (hm : r.rqState.netQueued = true → r.masterBio = true) (h : (modFlags nc e r).netQueued = true) :
    .senderWork ∈ queuedOn e r ∨ (r.rqState.netQueued = true ∧ e.fromSender = false) := by
  cases e <;> simp only [modFlags, barrierFlags] at h <;> (try split_ifs at h) <;>
    simp_all [queuedOn, Event.fromSender]

theorem step_queuedOnSender {nc : NetConf} {i : Input} {r : Req} {d : Dev}
    (hp : i.pre r d = true) (h : QueuedOnSender r) : QueuedOnSender (step nc i r d).req := by
  obtain ⟨b, hb⟩ := step_rqState nc i r d
  have hflags : (step nc i r d).req.rqState.netQueued = (inputFlags nc r i).netQueued := by
    rw [hb]
  refine ⟨fun hq => ?_, fun hq => ?_⟩
  · rw [hflags] at hq
    cases i with
    | ev e =>
      have hw : queuedOn e (if e.fromSender then { r with wOn := r.wOn.erase .senderWork }
          else r) = queuedOn e r := by split_ifs <;> rfl
      simp only [step, deliver, reqMod_wOn, hw]
      rcases modFlags_netQueued h.held hq with hs | ⟨hn, hf⟩
      · exact List.mem_append_right _ hs
      · simp only [hf, Bool.false_eq_true, ↓reduceIte]
        exact List.mem_append_left _ (h.queued hn)
    | endio error =>
      simp only [step, reqMod_wOn]
      rcases modFlags_netQueued h.held hq with hs | ⟨hn, -⟩
      · exact List.mem_append_right _ hs
      · exact List.mem_append_left _ (h.queued hn)
    | suspend => exact h.queued hq
    | resume => exact h.queued hq
  · have hm : (step nc i r d).m = none := by
      cases hx : (step nc i r d).m with
      | none => rfl
      | some x => simpa [RqState.mayComplete, hq] using step_mayComplete hx
    rw [(step_handsOut nc i r d).master, hm, h.held (inputFlags_netQueued hp (hflags ▸ hq))]
    rfl

/-- Along any valid run, `NET_QUEUED` implies that `req->w` is on `sender_work`. -/
theorem run_queuedOnSender {nc : NetConf} :
    ∀ {ins : List Input} {r : Req} {d : Dev}, valid nc ins r d = true → QueuedOnSender r →
      QueuedOnSender (run nc ins r d).1
  | [], _, _, _, h => h
  | i :: _, r, d, hv, h => by
    simp only [valid, Bool.and_eq_true] at hv
    exact run_queuedOnSender (r := (step nc i r d).req) hv.2 (step_queuedOnSender hv.1 h)

/-- A protocol C write sent, caught by a connection loss, and re-sent after the reconnect. -/
def lossResend : List Input :=
  [.ev .handedOverToNetwork, .ev .connectionLostWhilePending, .ev .resend]

theorem write4k_queued_without_netQueued :
    valid protoC (lossResend ++ [.ev .resend]) write4kRouted.req write4kRouted.dev = true ∧
      (run protoC lossResend write4kRouted.req write4kRouted.dev).1.rqState.netQueued = false ∧
      (run protoC lossResend write4kRouted.req write4kRouted.dev).1.wOn = [.senderWork] ∧
      (run protoC (lossResend ++ [.ev .resend]) write4kRouted.req write4kRouted.dev).1.wOn =
        [.senderWork, .senderWork] := by
  decide

end Drbd
