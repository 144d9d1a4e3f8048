import Drbd.ReqAccounting
import Mathlib.Data.Nat.Defs
import Mathlib.Order.Basic

/-! What the handlers of one request change of the fields that matter across requests: the
direction and extent of the request, the interval tree it is in, its epoch, and the epoch
counters `current_tle_nr` and `current_tle_writes`. `__req_mod` and every input keep the
direction, the extent and the epoch, never put a request into `write_requests`, and change the
epoch counters only by closing the epoch; handing out the master bio of a write closes the
write's epoch. The router stamps the epoch, and its mirror branch is the only place a write
enters `write_requests`. -/
namespace Drbd

/-- The epoch invariant of one request: its epoch is not in the future, and the epoch of a
write whose master bio was handed out is closed. -/
structure EpochOk (cur : Nat) (r : Req) : Prop where
  le : r.epoch ≤ cur
  closed : r.rw = .write → r.masterBio = false → r.epoch < cur

theorem EpochOk.congr {c c' : Nat} {r r' : Req} (h : EpochOk c r) (hrw : r'.rw = r.rw)
    (he : r'.epoch = r.epoch) (hm : r'.masterBio = r.masterBio) (hc : c ≤ c') :
    EpochOk c' r' :=
  ⟨he ▸ h.le.trans hc, fun hw hb => he ▸ (h.closed (hrw ▸ hw) (hm ▸ hb)).trans_le hc⟩

/-- A handler took `r` on `d` to `r'` on `d'`: it kept the direction, epoch and extent of the
request and the epoch invariant, put the request into `write_requests` only if `ins`, and did
not lower `current_tle_nr`. -/
structure Keeps (ins : Bool) (r : Req) (d : Dev) (r' : Req) (d' : Dev) : Prop where
  rw : r'.rw = r.rw
  epoch : r'.epoch = r.epoch
  sector : r'.sector = r.sector
  size : r'.size = r.size
  tree : r'.inTree = some .writeRequests → r.inTree = some .writeRequests ∨ ins = true
  tle : d.currentTleNr ≤ d'.currentTleNr
  epochOk : EpochOk d.currentTleNr r → EpochOk d'.currentTleNr r'

namespace Keeps

variable {a b : Bool} {r r₁ r₂ r₃ : Req} {d d₁ d₂ d₃ : Dev}

theorem refl (r : Req) (d : Dev) : Keeps false r d r d :=
  ⟨rfl, rfl, rfl, rfl, .inl, le_rfl, id⟩

theorem trans (h₁ : Keeps a r₁ d₁ r₂ d₂) (h₂ : Keeps b r₂ d₂ r₃ d₃) :
    Keeps (a || b) r₁ d₁ r₃ d₃ where
  rw := h₂.rw.trans h₁.rw
  epoch := h₂.epoch.trans h₁.epoch
  sector := h₂.sector.trans h₁.sector
  size := h₂.size.trans h₁.size
  tree h := by
    rcases h₂.tree h with h | h
    · rcases h₁.tree h with h | h <;> simp [h]
    · simp [h]
  tle := h₁.tle.trans h₂.tle
  epochOk := h₂.epochOk ∘ h₁.epochOk

theorem weaken (h : Keeps false r₁ d₁ r₂ d₂) : Keeps b r₁ d₁ r₂ d₂ :=
  { h with tree := fun ht => (h.tree ht).imp_right (by simp) }

theorem head (hrw : r₂.rw = r₁.rw) (he : r₂.epoch = r₁.epoch) (hs : r₂.sector = r₁.sector)
    (hz : r₂.size = r₁.size) (hm : r₂.masterBio = r₁.masterBio)
    (ht : r₂.inTree = r₁.inTree ∨ r₂.inTree = some .readRequests)
    (hc : d₁.currentTleNr ≤ d₂.currentTleNr) : Keeps false r₁ d₁ r₂ d₂ where
  rw := hrw
  epoch := he
  sector := hs
  size := hz
  tree h := by rcases ht with ht | ht <;> simp_all
  tle := hc
  epochOk h := h.congr hrw he hm hc

theorem dev (r : Req) (hc : d₁.currentTleNr ≤ d₂.currentTleNr) : Keeps false r d₁ r d₂ :=
  head rfl rfl rfl rfl rfl (.inl rfl) hc

theorem insert (r : Req) (d : Dev) :
    Keeps true r d { r with inTree := some .writeRequests } d :=
  ⟨rfl, rfl, rfl, rfl, fun _ => .inr rfl, le_rfl, fun h => ⟨h.le, h.closed⟩⟩

theorem pre (h : Keeps a r₂ d₂ r₃ d₃) (hc : d₁.currentTleNr ≤ d₂.currentTleNr) :
    Keeps a r₂ d₁ r₃ d₃ :=
  { h with tle := hc.trans h.tle, epochOk := fun e => h.epochOk ⟨e.le.trans hc,
      fun hw hb => (e.closed hw hb).trans_le hc⟩ }

end Keeps

/-- The epoch counters of `d'` follow from those of `d` by no change or by the close of the
epoch: the same epoch with the same count, or a later epoch with no write counted yet. -/
def TleStep (d d' : Dev) : Prop :=
  (d'.currentTleNr = d.currentTleNr ∧ d'.currentTleWrites = d.currentTleWrites) ∨
    (d.currentTleNr < d'.currentTleNr ∧ d'.currentTleWrites = 0)

namespace TleStep

variable {d d' d₁ d₂ d₃ : Dev}

theorem of_eq (hn : d'.currentTleNr = d.currentTleNr)
    (hw : d'.currentTleWrites = d.currentTleWrites) : TleStep d d' := .inl ⟨hn, hw⟩

theorem refl (d : Dev) : TleStep d d := of_eq rfl rfl

theorem close (d : Dev) : TleStep d (startNewTlEpoch d) := .inr ⟨Nat.lt_succ_self _, rfl⟩

theorem trans (h₁ : TleStep d₁ d₂) (h₂ : TleStep d₂ d₃) : TleStep d₁ d₃ := by
  unfold TleStep at *; omega

theorem pre (h : TleStep d₂ d₃) (hn : d₂.currentTleNr = d₁.currentTleNr)
    (hw : d₂.currentTleWrites = d₁.currentTleWrites) : TleStep d₁ d₃ :=
  (of_eq hn hw).trans h

theorem le (h : TleStep d d') : d.currentTleNr ≤ d'.currentTleNr := by
  unfold TleStep at h; omega

end TleStep

section Completion

@[simp] theorem Dev.getLdev_currentTleNr (d : Dev) : d.getLdev.currentTleNr = d.currentTleNr := by
  unfold Dev.getLdev; split <;> rfl

theorem reqMayBeDone_keeps (d₀ : Dev) (r : Req) (d : Dev) :
    Keeps false r d (reqMayBeDone d₀ r) d := by
  unfold reqMayBeDone
  split_ifs
  iterate 2 exact .refl r d
  · exact .head rfl rfl rfl rfl rfl (.inl rfl) le_rfl
  · exact .refl r d

theorem completeMaster_currentTleNr (r : Req) (d : Dev) :
    (completeMaster r d).2.1.currentTleNr =
      if r.rw = .write ∧ r.epoch = d.currentTleNr then d.currentTleNr + 1 else d.currentTleNr := by
  simp only [completeMaster]; split <;> split_ifs <;> rfl

theorem completeMaster_keeps (r : Req) (d : Dev) :
    Keeps false r d (completeMaster r d).1 (completeMaster r d).2.1 := by
  have hc := completeMaster_currentTleNr r d
  have hle : d.currentTleNr ≤ (completeMaster r d).2.1.currentTleNr := by
    rw [hc]; split_ifs <;> omega
  have hlt (hw : r.rw = .write) (he : r.epoch ≤ d.currentTleNr) :
      r.epoch < (completeMaster r d).2.1.currentTleNr := by
    rw [hc]; split_ifs with h
    · omega
    · exact lt_of_le_of_ne he fun h' => h ⟨hw, h'⟩
  have hr : (completeMaster r d).1.rw = r.rw ∧ (completeMaster r d).1.epoch = r.epoch ∧
      (completeMaster r d).1.sector = r.sector ∧ (completeMaster r d).1.size = r.size ∧
      (completeMaster r d).1.inTree = none := by
    simp only [completeMaster]; split <;> exact ⟨rfl, rfl, rfl, rfl, rfl⟩
  obtain ⟨hrw, he, hs, hz, ht⟩ := hr
  refine ⟨hrw, he, hs, hz, by simp [ht], hle, fun h => ⟨?_, fun hw _ => ?_⟩⟩
  · rw [he]; exact h.le.trans hle
  · rw [he]; exact hlt (hrw ▸ hw) h.le

theorem reqMayBeCompleted_keeps (r : Req) (d : Dev) :
    Keeps false r d (reqMayBeCompleted r d).1 (reqMayBeCompleted r d).2.1 := by
  simp only [reqMayBeCompleted]
  split_ifs with h₁ h₂ h₃ hm
  iterate 3 exact .refl r d
  · exact (completeMaster_keeps r d).trans (reqMayBeDone_keeps _ _ _)
  · exact reqMayBeDone_keeps _ _ _

theorem reqMayBeCompletedNotSusp_keeps (r : Req) (d : Dev) :
    Keeps false r d (reqMayBeCompletedNotSusp r d).1 (reqMayBeCompletedNotSusp r d).2.1 := by
  simp only [reqMayBeCompletedNotSusp]
  split_ifs
  · exact reqMayBeCompleted_keeps r d
  · exact .refl r d

theorem barrierAcked_keeps (r : Req) (d : Dev) :
    Keeps false r d (barrierAcked r d).req (barrierAcked r d).dev := by
  simp only [barrierAcked]
  split_ifs
  · exact .refl r d
  iterate 2
    refine Keeps.trans (a := false) ?_ (reqMayBeDone_keeps _ _ _)
    exact .head rfl rfl rfl rfl rfl (.inl rfl) le_rfl
  · exact reqMayBeDone_keeps _ _ _

end Completion

/-- The ways `__req_mod` ends once it has updated the request and the device: it returns, it
calls `req_may_be_completed` or `req_may_be_completed_not_susp`, or it runs the
`BARRIER_ACKED` case. -/
inductive ModTail | stop (rv : ModRv) | completed | notSusp | barrier

def ModTail.run : ModTail → Req → Dev → ModResult
  | .stop rv, r, d => ⟨r, d, none, rv⟩
  | .completed, r, d => .ofTriple (reqMayBeCompleted r d)
  | .notSusp, r, d => .ofTriple (reqMayBeCompletedNotSusp r d)
  | .barrier, r, d => barrierAcked r d

theorem ModTail.run_keeps (t : ModTail) (r : Req) (d : Dev) :
    Keeps false r d (t.run r d).req (t.run r d).dev := by
  cases t with
  | stop rv => exact .refl r d
  | completed => exact reqMayBeCompleted_keeps r d
  | notSusp => exact reqMayBeCompletedNotSusp_keeps r d
  | barrier => exact barrierAcked_keeps r d

theorem reqMod_cases (nc : NetConf) (e : Event) (r : Req) (d : Dev) :
    ∃ t r' d', reqMod nc e r d = ModTail.run t r' d' ∧ Keeps false r d r' d' ∧ TleStep d d' := by
  have h := Keeps.refl r d
  cases e
  case toBeSent | toBeSubmitted | readCompletedWithError | queueForSendOos =>
    exact ⟨.stop _, _, _, rfl, .head rfl rfl rfl rfl rfl (.inl rfl) le_rfl, .of_eq rfl rfl⟩
  case queueForNetRead =>
    exact ⟨.stop _, _, _, rfl, .head rfl rfl rfl rfl rfl (.inr rfl) le_rfl, .of_eq rfl rfl⟩
  case queueForNetWrite =>
    refine ⟨.stop _, _, _, rfl, .head rfl rfl rfl rfl rfl (.inl rfl) ?_, ?_⟩
    all_goals split
    · exact Nat.le_succ _
    · exact Nat.le_refl _
    · exact .close d
    · exact .refl d
  case connectionLostWhilePending =>
    exact ⟨.completed, _, _, rfl, .head rfl rfl rfl rfl rfl (.inl rfl) (by split_ifs <;> exact le_rfl),
      by split_ifs <;> exact .of_eq rfl rfl⟩
  case barrierAcked => exact ⟨.barrier, _, _, rfl, h, .refl d⟩
  case failFrozenDiskIo =>
    simp only [reqMod]
    split_ifs
    · exact ⟨.stop _, _, _, rfl, h, .refl d⟩
    · exact ⟨.completed, _, _, rfl, h, .refl d⟩
  case restartFrozenDiskIo =>
    simp only [reqMod]
    split_ifs
    · exact ⟨.stop _, _, _, rfl, h, .refl d⟩
    · exact ⟨.stop _, _, _, rfl, .head rfl rfl rfl rfl rfl (.inl rfl) le_rfl, .refl d⟩
    all_goals exact ⟨.stop _, _, _, rfl, .head rfl rfl rfl rfl rfl (.inl rfl) (by simp),
      by unfold Dev.getLdev; split <;> exact .of_eq rfl rfl⟩
  case handedOverToNetwork =>
    simp only [reqMod]
    split
    · exact ⟨.stop _, _, _, rfl, h, .refl d⟩
    · exact ⟨.notSusp, _, _, rfl, .head rfl rfl rfl rfl rfl (.inl rfl)
        (by split_ifs <;> exact le_rfl), by split_ifs <;> exact .of_eq rfl rfl⟩
  case resend =>
    simp only [reqMod]
    repeat' split
    all_goals first
      | exact ⟨.barrier, _, _, rfl, h, .refl d⟩
      | exact ⟨.stop _, _, _, rfl, h, .refl d⟩
      | exact ⟨.stop _, _, _, rfl, .head rfl rfl rfl rfl rfl (.inl rfl) le_rfl, .refl d⟩
  all_goals
    exact ⟨.notSusp, _, _, rfl, .head rfl rfl rfl rfl rfl (.inl rfl) (by (try split_ifs) <;> exact le_rfl),
      by (try split_ifs) <;> exact .of_eq rfl rfl⟩

theorem reqMod_keeps (nc : NetConf) (e : Event) (r : Req) (d : Dev) :
    Keeps false r d (reqMod nc e r d).req (reqMod nc e r d).dev := by
  obtain ⟨t, r', d', h, hk, -⟩ := reqMod_cases nc e r d
  rw [h]
  exact hk.trans (t.run_keeps r' d')

theorem step_keeps (nc : NetConf) (i : Input) (r : Req) (d : Dev) :
    Keeps false r d (step nc i r d).req (step nc i r d).dev := by
  cases i with
  | ev e =>
    refine Keeps.trans (.head ?_ ?_ ?_ ?_ ?_ (.inl ?_) le_rfl) (reqMod_keeps nc e _ d)
    all_goals split <;> rfl
  | endio error =>
    refine Keeps.trans (a := false) ?_ (reqMod_keeps nc _ _ d)
    exact .head rfl rfl rfl rfl rfl (.inl rfl) le_rfl
  | suspend => exact .dev r le_rfl
  | resume => exact .dev r le_rfl

section Router

theorem connCheckCongested_tleStep (d : Dev) (p : PeerDevice) :
    TleStep d (connCheckCongested d p).2 := by
  simp only [connCheckCongested]
  split
  · exact .refl d
  · split_ifs <;> first | exact .of_eq rfl rfl | exact .inr ⟨Nat.lt_succ_self _, rfl⟩

theorem processRemote_keeps (nc : NetConf) (r : Req) (d : Dev) :
    Keeps true r d (processRemote nc r d).1 (processRemote nc r d).2 :=
  ((reqMod_keeps nc .toBeSent r d).trans (.insert _ _)).trans (reqMod_keeps nc .queueForNetWrite _ _)

theorem processWritePeer_keeps (nc : NetConf) (r : Req) (d : Dev) (remote : Bool) :
    Keeps true r d (processWritePeer nc r d remote).2.1 (processWritePeer nc r d remote).2.2 := by
  unfold processWritePeer
  dsimp only
  split
  · exact .weaken (.refl r d)
  · split_ifs
    · exact .weaken (.refl r d)
    · exact processRemote_keeps nc r d
    · exact .weaken ((reqMod_keeps nc .queueForSendOos r _).pre le_rfl)
    · exact .weaken (.dev r le_rfl)

theorem drbdProcessWriteRequest_keeps (nc : NetConf) (r : Req) (d : Dev) :
    Keeps true r d (drbdProcessWriteRequest nc r d).2.1 (drbdProcessWriteRequest nc r d).2.2 := by
  unfold drbdProcessWriteRequest
  split
  · exact .weaken (.refl r d)
  · split_ifs
    · exact (processWritePeer_keeps nc r _ _).pre (connCheckCongested_tleStep d _).le
    · exact processWritePeer_keeps nc r d false

theorem findPeerLoop_counters (r : Req) :
    ∀ (ps : List PeerDevice) (i : Nat) (d : Dev),
      (findPeerLoop r ps i d).2.currentTleNr = d.currentTleNr ∧
        (findPeerLoop r ps i d).2.currentTleWrites = d.currentTleWrites
  | [], _, _ => ⟨rfl, rfl⟩
  | p :: ps, i, d => by
    have hb : ∀ rb, (remoteDueToReadBalancing d p r.sector rb).2.currentTleNr = d.currentTleNr ∧
        (remoteDueToReadBalancing d p r.sector rb).2.currentTleWrites = d.currentTleWrites :=
      fun rb => by cases rb <;> exact ⟨rfl, rfl⟩
    simp only [findPeerLoop]
    split_ifs
    · exact findPeerLoop_counters r ps (i + 1) d
    · exact ⟨rfl, rfl⟩
    · exact hb _
    · have ih := findPeerLoop_counters r ps (i + 1)
        (remoteDueToReadBalancing d p r.sector d.readBalancing).2
      exact ⟨ih.1.trans (hb _).1, ih.2.trans (hb _).2⟩

theorem findPeerDeviceForRead_req (r : Req) (d : Dev) :
    (findPeerDeviceForRead r d).2.1 = r ∨
      (findPeerDeviceForRead r d).2.1 = { r with privateBio := .none } := by
  unfold findPeerDeviceForRead
  dsimp only
  split_ifs <;> simp

theorem findPeerDeviceForRead_counters (r : Req) (d : Dev) :
    (findPeerDeviceForRead r d).2.2.currentTleNr = d.currentTleNr ∧
      (findPeerDeviceForRead r d).2.2.currentTleWrites = d.currentTleWrites := by
  unfold findPeerDeviceForRead
  dsimp only
  split_ifs <;> simp [findPeerLoop_counters]

theorem findPeerDeviceForRead_keeps (r : Req) (d : Dev) :
    Keeps false r d (findPeerDeviceForRead r d).2.1 (findPeerDeviceForRead r d).2.2 ∧
      (findPeerDeviceForRead r d).2.1.masterBio = r.masterBio := by
  have hc := (findPeerDeviceForRead_counters r d).1.ge
  rcases findPeerDeviceForRead_req r d with h | h <;> rw [h] <;>
    exact ⟨.head rfl rfl rfl rfl rfl (.inl rfl) hc, rfl⟩

theorem makeRequestSubmit_keeps (nc : NetConf) (r : Req) (d : Dev) :
    Keeps false r d (makeRequestSubmit nc r d).req (makeRequestSubmit nc r d).dev := by
  unfold makeRequestSubmit
  split_ifs
  · exact reqMod_keeps nc .toBeSubmitted r d
  · exact reqMayBeCompleted_keeps r d

theorem makeRequestRoute_keeps (nc : NetConf) (r : Req) (d : Dev) (peer : Option Nat) :
    Keeps (decide (r.rw = .write)) { r with epoch := d.currentTleNr, inTl := true } d
      (makeRequestRoute nc r d peer).req (makeRequestRoute nc r d peer).dev := by
  unfold makeRequestRoute
  dsimp only
  by_cases hw : r.rw = .write
  · rw [decide_eq_true hw, if_pos hw, if_pos hw]
    refine Keeps.trans (a := true) ?_ (makeRequestSubmit_keeps nc _ _)
    exact (drbdProcessWriteRequest_keeps nc _ _).pre le_rfl
  · rw [decide_eq_false hw, if_neg hw, if_neg hw]
    refine Keeps.trans (a := false) ?_ (makeRequestSubmit_keeps nc _ _)
    split_ifs
    · exact (reqMod_keeps nc .toBeSent _ _).trans (reqMod_keeps nc .queueForNetRead _ _)
    · exact .refl _ _

/-- What the pass through `__drbd_make_request` under `req_lock` leaves of a request: the
direction and the extent are kept, only a write enters `write_requests`, `current_tle_nr` is
not lowered, the epoch invariant holds of a request whose master bio was not yet handed out, and
a write on a device that is not suspended is stamped with the current epoch. -/
structure Routed (r : Req) (d : Dev) (o : RouteResult) : Prop where
  rw : o.req.rw = r.rw
  sector : o.req.sector = r.sector
  size : o.req.size = r.size
  tree : o.req.inTree = some .writeRequests → r.inTree = some .writeRequests ∨ r.rw = .write
  tle : d.currentTleNr ≤ o.dev.currentTleNr
  epochOk : EpochOk d.currentTleNr r → r.masterBio = true → EpochOk o.dev.currentTleNr o.req
  stamp : d.suspended = false → r.rw = .write → o.req.epoch = d.currentTleNr

theorem Routed.of_keeps {r : Req} {d : Dev} {o : RouteResult} (k : Keeps false r d o.req o.dev)
    (hs : d.suspended = true ∨ r.rw ≠ .write) : Routed r d o where
  rw := k.rw
  sector := k.sector
  size := k.size
  tree h := .inl ((k.tree h).resolve_right Bool.false_ne_true)
  tle := k.tle
  epochOk h _ := k.epochOk h
  stamp h hw := by rcases hs with hs | hs <;> simp_all

theorem Routed.of_route {r r₁ : Req} {d d₁ : Dev} {o : RouteResult}
    (k : Keeps (decide (r₁.rw = .write)) { r₁ with epoch := d₁.currentTleNr, inTl := true } d₁
      o.req o.dev)
    (k₁ : Keeps false r d r₁ d₁) (hm : r₁.masterBio = r.masterBio)
    (hc : d₁.currentTleNr = d.currentTleNr) : Routed r d o where
  rw := k.rw.trans k₁.rw
  sector := k.sector.trans k₁.sector
  size := k.size.trans k₁.size
  tree h := by
    rcases k.tree h with h | h
    · exact .inl ((k₁.tree h).resolve_right Bool.false_ne_true)
    · exact .inr (k₁.rw ▸ of_decide_eq_true h)
  tle := hc ▸ k.tle
  epochOk _ hb := k.epochOk ⟨le_rfl, fun _ h => by simp_all⟩
  stamp _ _ := k.epoch.trans hc

theorem makeRequestLocked_routed (nc : NetConf) (r : Req) (d : Dev) :
    Routed r d (makeRequestLocked nc r d) := by
  unfold makeRequestLocked
  dsimp only
  split_ifs with hs hw
  · refine .of_keeps (Keeps.trans (a := false) ?_ (reqMayBeCompleted_keeps _ _)) (.inl hs)
    exact .head rfl rfl rfl rfl rfl (.inl rfl) le_rfl
  · exact .of_route (makeRequestRoute_keeps nc r _ none) (.dev r le_rfl) rfl rfl
  · have k := (findPeerDeviceForRead_keeps r { d with inFlight := d.inFlight + 1 }).1
    refine .of_keeps (Keeps.trans (a := false) ?_ (reqMayBeCompleted_keeps _ _)) (.inr hw)
    exact k.pre le_rfl
  · have k := findPeerDeviceForRead_keeps r { d with inFlight := d.inFlight + 1 }
    exact .of_route (makeRequestRoute_keeps nc _ _ _) (k.1.pre le_rfl) k.2
      (findPeerDeviceForRead_counters _ _).1

end Router

end Drbd
