import Drbd.ReqFrame

/-! The size of an epoch. `current_tle_writes` counts the writes stamped with `current_tle_nr`,
and `QUEUE_FOR_NET_WRITE` starts a new epoch once `max_epoch_size` of them are counted. The
test runs only for mirrored writes, while local-only and out-of-sync-only writes are counted
too, and soft closes (the master bio of a write of the current epoch is handed out) and
congestion closes start epochs early. Over every run of passes through `__drbd_make_request`,
inputs, and changes of the rest of the device, at most `max(max_epoch_size, 1)` writes are
queued for the network with the same epoch number. -/
namespace Drbd

section Steps

theorem completeMaster_tleStep (r : Req) (d : Dev) : TleStep d (completeMaster r d).2.1 := by
  unfold completeMaster
  dsimp only
  split_ifs <;> first | exact .of_eq rfl rfl | exact .inr ⟨Nat.lt_succ_self _, rfl⟩

theorem reqMayBeCompleted_tleStep (r : Req) (d : Dev) :
    TleStep d (reqMayBeCompleted r d).2.1 := by
  simp only [reqMayBeCompleted]
  split_ifs
  iterate 3 exact .refl d
  · exact completeMaster_tleStep r d
  · exact .refl d

theorem reqMayBeCompletedNotSusp_tleStep (r : Req) (d : Dev) :
    TleStep d (reqMayBeCompletedNotSusp r d).2.1 := by
  unfold reqMayBeCompletedNotSusp
  split_ifs
  · exact reqMayBeCompleted_tleStep r d
  · exact .refl d

theorem barrierAcked_tleStep (r : Req) (d : Dev) : TleStep d (barrierAcked r d).dev := by
  simp only [barrierAcked]
  split_ifs <;> exact .of_eq rfl rfl

theorem ModTail.run_tleStep (t : ModTail) (r : Req) (d : Dev) : TleStep d (t.run r d).dev := by
  cases t with
  | stop rv => exact .refl d
  | completed => exact reqMayBeCompleted_tleStep r d
  | notSusp => exact reqMayBeCompletedNotSusp_tleStep r d
  | barrier => exact barrierAcked_tleStep r d

theorem reqMod_tleStep (nc : NetConf) (e : Event) (r : Req) (d : Dev) :
    TleStep d (reqMod nc e r d).dev := by
  obtain ⟨t, r', d', h, -, hs⟩ := reqMod_cases nc e r d
  rw [h]
  exact hs.trans (t.run_tleStep r' d')

theorem step_tleStep (nc : NetConf) (i : Input) (r : Req) (d : Dev) :
    TleStep d (step nc i r d).dev := by
  cases i with
  | ev e => exact reqMod_tleStep nc e _ d
  | endio error => exact reqMod_tleStep nc _ _ d
  | suspend | resume => exact .of_eq rfl rfl

end Steps

section Router

theorem processRemote_queue (nc : NetConf) (r : Req) (d : Dev) :
    (d.currentTleNr < (processRemote nc r d).2.currentTleNr ∧
        (processRemote nc r d).2.currentTleWrites = 0) ∨
      ((processRemote nc r d).2.currentTleNr = d.currentTleNr ∧
        (processRemote nc r d).2.currentTleWrites = d.currentTleWrites ∧
        d.currentTleWrites < nc.maxEpochSize) := by
  simp only [processRemote, reqMod]
  split_ifs with h
  · exact .inl ⟨Nat.lt_succ_self _, rfl⟩
  · exact .inr ⟨rfl, rfl, Nat.lt_of_not_le h⟩

theorem processWritePeer_tleStep (nc : NetConf) (r : Req) (d : Dev) (remote : Bool) :
    TleStep d (processWritePeer nc r d remote).2.2 := by
  simp only [processWritePeer]
  split
  · exact .refl d
  · split_ifs
    · exact .refl d
    · rcases processRemote_queue nc r d with h | h
      · exact .inr h
      · exact .of_eq h.1 h.2.1
    all_goals exact .of_eq rfl rfl

theorem processWritePeer_count (nc : NetConf) (r : Req) (d : Dev) (remote : Bool) :
    (processWritePeer nc r d remote).1 = 0 ∨ ((processWritePeer nc r d remote).1 = 1 ∧
      (processWritePeer nc r d remote).2.2 = (processRemote nc r d).2) := by
  simp only [processWritePeer]
  split
  · exact .inl rfl
  · split_ifs
    · exact .inl rfl
    · exact .inr ⟨rfl, rfl⟩
    all_goals exact .inl rfl

theorem drbdProcessWriteRequest_tleStep (nc : NetConf) (r : Req) (d : Dev) :
    TleStep d (drbdProcessWriteRequest nc r d).2.2 := by
  simp only [drbdProcessWriteRequest]
  split
  · exact .refl d
  · split_ifs
    · exact (connCheckCongested_tleStep d _).trans (processWritePeer_tleStep nc r _ _)
    · exact processWritePeer_tleStep nc r d false

theorem drbdProcessWriteRequest_count (nc : NetConf) (r : Req) (d : Dev) :
    (drbdProcessWriteRequest nc r d).1 = 0 ∨ ((drbdProcessWriteRequest nc r d).1 = 1 ∧
      ∃ d₁, TleStep d d₁ ∧ (drbdProcessWriteRequest nc r d).2.2 = (processRemote nc r d₁).2) := by
  simp only [drbdProcessWriteRequest]
  split
  · exact .inl rfl
  · split_ifs
    · exact (processWritePeer_count nc r _ _).imp_right fun h =>
        ⟨h.1, _, connCheckCongested_tleStep d _, h.2⟩
    · exact (processWritePeer_count nc r d false).imp_right fun h => ⟨h.1, d, .refl d, h.2⟩

theorem makeRequestSubmit_tleStep (nc : NetConf) (r : Req) (d : Dev) :
    TleStep d (makeRequestSubmit nc r d).dev := by
  unfold makeRequestSubmit
  split_ifs
  · exact reqMod_tleStep nc .toBeSubmitted r d
  · exact reqMayBeCompleted_tleStep r d

theorem findPeerDeviceForRead_tleStep (r : Req) (d : Dev) :
    TleStep d (findPeerDeviceForRead r d).2.2 :=
  .of_eq (findPeerDeviceForRead_counters r d).1 (findPeerDeviceForRead_counters r d).2

theorem makeRequestRoute_tleStep (nc : NetConf) (r : Req) (d : Dev) (peer : Option Nat) :
    TleStep (if r.rw = .write then { d with currentTleWrites := d.currentTleWrites + 1 } else d)
      (makeRequestRoute nc r d peer).dev := by
  unfold makeRequestRoute
  dsimp only
  refine TleStep.trans ?_ (makeRequestSubmit_tleStep nc _ _)
  split_ifs <;> try dsimp only
  · exact drbdProcessWriteRequest_tleStep nc _ _
  · exact (reqMod_tleStep nc .toBeSent _ d).trans (reqMod_tleStep nc .queueForNetRead _ _)
  · exact .refl d

theorem makeRequestLocked_tleStep (nc : NetConf) (r : Req) (d : Dev) :
    TleStep (if d.suspended then d else if r.rw = .write then
        { d with currentTleWrites := d.currentTleWrites + 1 } else d)
      (makeRequestLocked nc r d).dev := by
  have hf : TleStep d (findPeerDeviceForRead r { d with inFlight := d.inFlight + 1 }).2.2 :=
    (findPeerDeviceForRead_tleStep r _).pre rfl rfl
  have hrw : (findPeerDeviceForRead r { d with inFlight := d.inFlight + 1 }).2.1.rw = r.rw := by
    rcases findPeerDeviceForRead_req r { d with inFlight := d.inFlight + 1 } with h | h <;> rw [h]
  unfold makeRequestLocked
  dsimp only
  split_ifs with hs hw
  · exact reqMayBeCompleted_tleStep _ _
  · have h := makeRequestRoute_tleStep nc r { d with inFlight := d.inFlight + 1 } none
    rw [if_pos hw] at h
    exact h.pre rfl rfl
  · exact hf.trans (reqMayBeCompleted_tleStep _ _)
  · have h := makeRequestRoute_tleStep nc
      (findPeerDeviceForRead r { d with inFlight := d.inFlight + 1 }).2.1
      (findPeerDeviceForRead r { d with inFlight := d.inFlight + 1 }).2.2
      (findPeerDeviceForRead r { d with inFlight := d.inFlight + 1 }).1
    rw [if_neg (hrw ▸ hw)] at h
    exact hf.trans h

/-- How many connections a pass through `__drbd_make_request` queues its request for with
`QUEUE_FOR_NET_WRITE`: the count `drbd_process_write_request` returns for the write the router
stamped, on a device that is not suspended. -/
def makeRequestNetWrites (nc : NetConf) (r : Req) (d : Dev) : Nat :=
  if d.suspended then 0
  else if r.rw = .write then
    (drbdProcessWriteRequest nc { r with epoch := d.currentTleNr, inTl := true }
      { d with inFlight := d.inFlight + 1, currentTleWrites := d.currentTleWrites + 1 }).1
  else 0

theorem makeRequestLocked_write (nc : NetConf) {r : Req} {d : Dev} (hs : d.suspended = false)
    (hw : r.rw = .write) :
    makeRequestLocked nc r d =
      makeRequestSubmit nc
        (drbdProcessWriteRequest nc { r with epoch := d.currentTleNr, inTl := true }
          { d with inFlight := d.inFlight + 1, currentTleWrites := d.currentTleWrites + 1 }).2.1
        (drbdProcessWriteRequest nc { r with epoch := d.currentTleNr, inTl := true }
          { d with inFlight := d.inFlight + 1, currentTleWrites := d.currentTleWrites + 1 }).2.2 := by
  simp only [makeRequestLocked, makeRequestRoute, hs, hw, Bool.false_eq_true, if_false, if_true]

theorem makeRequestLocked_queue (nc : NetConf) {r : Req} {d : Dev}
    (h : makeRequestNetWrites nc r d ≠ 0) :
    d.suspended = false ∧ r.rw = .write ∧ makeRequestNetWrites nc r d = 1 ∧
      ((makeRequestLocked nc r d).dev.currentTleNr = d.currentTleNr →
        (makeRequestLocked nc r d).dev.currentTleWrites < nc.maxEpochSize) := by
  unfold makeRequestNetWrites at h ⊢
  split_ifs at h ⊢ with hs hw <;> try exact absurd rfl h
  rcases drbdProcessWriteRequest_count nc { r with epoch := d.currentTleNr, inTl := true }
      { d with inFlight := d.inFlight + 1, currentTleWrites := d.currentTleWrites + 1 }
    with h0 | ⟨h1, d₁, hd₁, heq⟩
  · exact absurd h0 h
  have hs' : d.suspended = false := by simpa using hs
  have hsub : TleStep (processRemote nc { r with epoch := d.currentTleNr, inTl := true } d₁).2
      (makeRequestLocked nc r d).dev := by
    rw [makeRequestLocked_write nc hs' hw, ← heq]; exact makeRequestSubmit_tleStep nc _ _
  refine ⟨hs', hw, h1, fun hn => ?_⟩
  have hq := processRemote_queue nc { r with epoch := d.currentTleNr, inTl := true } d₁
  unfold TleStep at hd₁ hsub
  dsimp only at hd₁
  omega

end Router

/-! ### Runs -/

/-- What happens on the device between two looks at its epoch counters: a pass through
`__drbd_make_request` with a request, an input reaching a request, or a change of the rest of
the device (the peers and their connections, the congestion figures, suspension) to that of
`d`, which leaves the epoch counters alone. -/
inductive EpochAct
  | route (r : Req)
  | input (i : Input) (r : Req)
  | env (d : Dev)

/-- One act on the device, and the epochs of the writes it queued with `QUEUE_FOR_NET_WRITE`.
An input that does not meet its precondition does not arrive. -/
def epochStep (nc : NetConf) (d : Dev) : EpochAct → Dev × List Nat
  | .route r => ((makeRequestLocked nc r d).dev,
      List.replicate (makeRequestNetWrites nc r d) (makeRequestLocked nc r d).req.epoch)
  | .input i r => if i.pre r d then ((step nc i r d).dev, []) else (d, [])
  | .env d' =>
    ({ d' with currentTleNr := d.currentTleNr, currentTleWrites := d.currentTleWrites }, [])

/-- The device after the acts, and the epochs of the writes queued on the way, in order. -/
def epochRun (nc : NetConf) : List EpochAct → Dev → Dev × List Nat
  | [], d => (d, [])
  | a :: as, d =>
    ((epochRun nc as (epochStep nc d a).1).1,
      (epochStep nc d a).2 ++ (epochRun nc as (epochStep nc d a).1).2)

/-- The epochs queued so far, against the epoch counters of the device: every epoch has at
most `max(max_epoch_size, 1)` of them, no later epoch than the current one has any, and the
current one has at most `current_tle_writes` and fewer than `max(max_epoch_size, 1)`. -/
structure EpochInv (p : Nat) (d : Dev) (qs : List Nat) : Prop where
  bound : ∀ e, qs.count e ≤ max p 1
  future : ∀ e, d.currentTleNr < e → qs.count e = 0
  current : qs.count d.currentTleNr ≤ d.currentTleWrites
  room : qs.count d.currentTleNr < max p 1

namespace EpochInv

variable {p : Nat} {d d₁ d' : Dev} {qs : List Nat}

theorem nil (p : Nat) (d : Dev) : EpochInv p d [] :=
  ⟨fun _ => Nat.zero_le _, fun _ _ => rfl, Nat.zero_le _, by simp only [List.count_nil]; omega⟩

theorem tleStep (h : EpochInv p d qs) (hs : TleStep d d') : EpochInv p d' qs := by
  rcases hs with ⟨hn, hw⟩ | ⟨hn, hw⟩
  · exact ⟨h.bound, hn ▸ h.future, hn ▸ hw ▸ h.current, hn ▸ h.room⟩
  · have h0 := h.future _ hn
    exact ⟨h.bound, fun e he => h.future e (hn.trans he), by omega, by omega⟩

theorem count (h : EpochInv p d qs) (hn : d'.currentTleNr = d.currentTleNr)
    (hw : d.currentTleWrites ≤ d'.currentTleWrites) : EpochInv p d' qs :=
  ⟨h.bound, hn ▸ h.future, hn ▸ h.current.trans hw, hn ▸ h.room⟩

theorem queue (h : EpochInv p d qs) (hs : TleStep d₁ d') (hn : d₁.currentTleNr = d.currentTleNr)
    (hw : d₁.currentTleWrites = d.currentTleWrites + 1)
    (hq : d'.currentTleNr = d.currentTleNr → d'.currentTleWrites < p) :
    EpochInv p d' (qs ++ [d.currentTleNr]) := by
  have hc : ∀ e, (qs ++ [d.currentTleNr]).count e =
      qs.count e + if d.currentTleNr = e then 1 else 0 := fun e => by
    simp [List.count_singleton]
  unfold TleStep at hs
  refine ⟨fun e => ?_, fun e he => ?_, ?_, ?_⟩
  · rw [hc]
    by_cases he : d.currentTleNr = e
    · rw [if_pos he, ← he]; exact h.room
    · rw [if_neg he, Nat.add_zero]; exact h.bound e
  · rw [hc, if_neg (by omega), h.future e (by omega)]
  all_goals
    rw [hc]
    by_cases he : d.currentTleNr = d'.currentTleNr
    · rw [if_pos he, ← he]
      have := h.current
      have := hq he.symm
      omega
    · rw [if_neg he, h.future _ (by omega)]
      omega

end EpochInv

theorem epochStep_inv (nc : NetConf) (d : Dev) (a : EpochAct) {qs : List Nat}
    (h : EpochInv nc.maxEpochSize d qs) :
    EpochInv nc.maxEpochSize (epochStep nc d a).1 (qs ++ (epochStep nc d a).2) := by
  cases a with
  | route r =>
    simp only [epochStep]
    have hl := makeRequestLocked_tleStep nc r d
    by_cases hc : makeRequestNetWrites nc r d = 0
    · rw [hc, List.replicate_zero, List.append_nil]
      refine EpochInv.tleStep ?_ hl
      split_ifs
      · exact h
      · exact h.count rfl (Nat.le_succ _)
      · exact h
    · obtain ⟨hs, hw, h1, hq⟩ := makeRequestLocked_queue nc hc
      rw [h1, List.replicate_one, (makeRequestLocked_routed nc r d).stamp hs hw]
      rw [if_neg (by simp [hs]), if_pos hw] at hl
      exact h.queue hl rfl rfl hq
  | input i r =>
    simp only [epochStep]
    split_ifs
    · simpa using h.tleStep (step_tleStep nc i r d)
    · simpa using h
  | env d' =>
    simp only [epochStep, List.append_nil]
    exact h.count rfl le_rfl

theorem epochRun_inv (nc : NetConf) :
    ∀ (as : List EpochAct) (d : Dev) (qs : List Nat), EpochInv nc.maxEpochSize d qs →
      EpochInv nc.maxEpochSize (epochRun nc as d).1 (qs ++ (epochRun nc as d).2)
  | [], d, qs, h => by simpa [epochRun] using h
  | a :: as, d, qs, h => by
    have := epochRun_inv nc as _ _ (epochStep_inv nc d a h)
    simpa [epochRun] using this

/-- Over every run of passes through `__drbd_make_request` (reads, and writes that are
mirrored, local only or out of sync only, on any state of the peers), inputs that meet their
preconditions, and changes of the rest of the device, with `max_epoch_size` fixed, at most
`max(max_epoch_size, 1)` writes are queued with `QUEUE_FOR_NET_WRITE` while stamped with the
same epoch. -/
theorem queued_writes_per_epoch_bounded (nc : NetConf) (acts : List EpochAct) (d : Dev)
    (e : Nat) : (epochRun nc acts d).2.count e ≤ max nc.maxEpochSize 1 := by
  simpa using (epochRun_inv nc acts d [] (.nil _ d)).bound e

end Drbd
