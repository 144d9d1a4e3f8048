import Drbd.ReqFrame

/-! Submitters of `__drbd_make_request` and the inputs reaching their requests, interleaved on
one device. A step is the work a submitter does before it takes `req_lock`, or one hold of the
lock: a submitter that finds a conflicting write in `complete_conflicting_writes` marks it and
sleeps, a submitter that finds none runs the router, or an input reaches a routed request. In
every reachable state no two requests in `write_requests` overlap, and a write stamped after the
master bio of another write was handed out belongs to a later epoch. -/
namespace Drbd

/-- Where the submitter of a request stands: the request is allocated and the submitter has
not yet passed the router, or it has. -/
inductive Stage | prepared | routed
  deriving DecidableEq, Repr

/-- A request of the device and the stage of its submitter. -/
structure Submission where
  req : Req
  stage : Stage
  deriving DecidableEq, Repr

/-- The requests of the device, in the order of their allocation, and the device. -/
structure Sys where
  subs : List Submission
  dev : Dev
  deriving DecidableEq, Repr

def Sys.init (d : Dev) : Sys := ⟨[], d⟩

/-- Modelled from the spec: `drbd_interval.c` is not under src/. The intervals
`[sector, sector + size/512)` of two requests share a sector. -/
def Req.overlaps (a b : Req) : Bool :=
  decide (a.sector < b.sector + b.sectors) && decide (b.sector < a.sector + a.sectors)

theorem Req.overlaps_comm (a b : Req) : a.overlaps b = b.overlaps a :=
  Bool.and_comm _ _

theorem Req.overlaps_congr {a b b' : Req} (hs : b'.sector = b.sector) (hz : b'.size = b.size) :
    a.overlaps b' = a.overlaps b := by
  simp only [Req.overlaps, Req.sectors, hs, hz]

/-- Modelled from the spec: `drbd_find_overlap(&device->write_requests, sector, size)`, here
the first request in `write_requests` whose interval overlaps the one of `r`. -/
def drbdFindOverlap (subs : List Submission) (r : Req) : Option Nat :=
  subs.findIdx? fun x => x.req.inTree = some .writeRequests && x.req.overlaps r

/-- `i->waiting = true`. -/
def Submission.markWaiting (x : Submission) : Submission :=
  { x with req := { x.req with waiting := true } }

/-- What can happen next on the device. -/
inductive SysAct
  /-- A bio arrives; `alloc` is the mempool's answer. -/
  | arrive (bio : Bio) (alloc : Option (Int × Option WorkCb))
  /-- The submitter of slot `k` takes `req_lock`. -/
  | submit (k : Nat)
  /-- An input reaches the request of slot `k`. -/
  | input (k : Nat) (i : Input)
  deriving DecidableEq, Repr

/-- One step. A write whose submitter finds an overlapping write in the tree marks it, drops
the lock in `schedule()` and tries again later; otherwise the rest of `__drbd_make_request`
runs under the same hold of the lock. -/
def sysStep (nc : NetConf) (s : Sys) : SysAct → Sys
  | .arrive bio alloc =>
    match makeRequestPrepare s.dev bio alloc with
    | some (r, d) => ⟨s.subs ++ [⟨r, .prepared⟩], d⟩
    | none => s
  | .submit k =>
    match s.subs[k]? with
    | some ⟨r, .prepared⟩ =>
      match if r.rw = .write then drbdFindOverlap s.subs r else none with
      | some j => { s with subs := s.subs.modify Submission.markWaiting j }
      | none =>
        let o := makeRequestLocked nc r s.dev
        ⟨s.subs.set k ⟨o.req, .routed⟩, o.dev⟩
    | _ => s
  | .input k i =>
    match s.subs[k]? with
    | some ⟨r, .routed⟩ =>
      let x := step nc i r s.dev
      ⟨s.subs.set k ⟨x.req, .routed⟩, x.dev⟩
    | _ => s

def sysRun (nc : NetConf) : List SysAct → Sys → Sys
  | [], s => s
  | a :: as, s => sysRun nc as (sysStep nc s a)

theorem sysRun_append (nc : NetConf) (as bs : List SysAct) (s : Sys) :
    sysRun nc (as ++ bs) s = sysRun nc bs (sysRun nc as s) := by
  induction as generalizing s with
  | nil => rfl
  | cons a as ih => exact ih _

section Slots

variable {α : Type} {l : List α} {i j k : Nat} {y z : α}

theorem getElem?_append_singleton_some (h : (l ++ [y])[i]? = some z) : l[i]? = some z ∨ y = z := by
  rw [List.getElem?_append] at h
  split_ifs at h
  · exact .inl h
  · match i - l.length, h with
    | 0, h => exact .inr (Option.some.inj h)

theorem getElem?_set_some (h : (l.set k y)[i]? = some z) :
    (k = i ∧ y = z) ∨ (k ≠ i ∧ l[i]? = some z) := by
  rw [List.getElem?_set] at h
  split at h
  · split at h
    · exact .inl ⟨‹_›, Option.some.inj h⟩
    · cases h
  · exact .inr ⟨‹_›, h⟩

theorem getElem?_modify_some {f : α → α} (h : (l.modify f j)[i]? = some z) :
    ∃ x, l[i]? = some x ∧ (z = f x ∨ z = x) := by
  rw [List.getElem?_modify] at h
  cases hx : l[i]? with
  | none => simp [hx] at h
  | some x =>
    simp only [hx, Option.map_eq_map, Option.map_some', Option.some.injEq] at h
    exact ⟨x, rfl, by split_ifs at h <;> simp [← h]⟩

theorem getElem?_append_of_some (h : l[i]? = some z) : (l ++ [y])[i]? = some z :=
  (List.getElem?_append_left (List.getElem?_eq_some_iff.1 h).1).trans h

theorem getElem?_set_of_some (h : l[k]? = some z) : (l.set k y)[k]? = some y :=
  List.getElem?_set_self (List.getElem?_eq_some_iff.1 h).1

theorem getElem?_modify_of_some {f : α → α} (h : l[i]? = some z) :
    (l.modify f j)[i]? = some (if j = i then f z else z) := by
  rw [List.getElem?_modify, h]; rfl

end Slots

theorem makeRequestPrepare_fresh (d : Dev) (bio : Bio) (alloc : Option (Int × Option WorkCb)) :
    ∀ p ∈ makeRequestPrepare d bio alloc, p.1.inTree = none ∧ p.1.masterBio = true ∧
      p.1.epoch = 0 ∧ p.2.currentTleNr = d.currentTleNr := by
  intro p hp
  cases alloc with
  | none => cases hp
  | some a =>
    simp only [makeRequestPrepare, Option.map_some', Option.mem_def, Option.some.injEq] at hp
    subst hp
    split_ifs <;> exact ⟨rfl, rfl, rfl, rfl⟩

/-- The ways a step changes the system. -/
inductive Moves (nc : NetConf) (s : Sys) : Sys → Prop
  | stay : Moves nc s s
  | arrive {r : Req} {d : Dev} : r.inTree = none → r.masterBio = true → r.epoch = 0 →
      d.currentTleNr = s.dev.currentTleNr → Moves nc s ⟨s.subs ++ [⟨r, .prepared⟩], d⟩
  | wait (j : Nat) : Moves nc s { s with subs := s.subs.modify Submission.markWaiting j }
  | route {k : Nat} {r : Req} : s.subs[k]? = some ⟨r, .prepared⟩ →
      (r.rw = .write → drbdFindOverlap s.subs r = none) →
      Moves nc s ⟨s.subs.set k ⟨(makeRequestLocked nc r s.dev).req, .routed⟩,
        (makeRequestLocked nc r s.dev).dev⟩
  | input {k : Nat} {r : Req} (i : Input) : s.subs[k]? = some ⟨r, .routed⟩ →
      Moves nc s ⟨s.subs.set k ⟨(step nc i r s.dev).req, .routed⟩, (step nc i r s.dev).dev⟩

theorem sysStep_moves (nc : NetConf) (s : Sys) (a : SysAct) : Moves nc s (sysStep nc s a) := by
  cases a with
  | arrive bio alloc =>
    simp only [sysStep]
    split
    · rename_i r d h
      obtain ⟨h₁, h₂, h₃, h₄⟩ := makeRequestPrepare_fresh s.dev bio alloc (r, d) h
      exact .arrive h₁ h₂ h₃ h₄
    · exact .stay
  | submit k =>
    simp only [sysStep]
    split
    · rename_i r hk
      split
      · exact .wait _
      · rename_i hf
        refine .route hk fun hw => ?_
        simpa [hw] using hf
    · exact .stay
  | input k i =>
    simp only [sysStep]
    split
    · exact .input i ‹_›
    · exact .stay

/-- No two requests in `write_requests` share a sector. -/
def WriteDisjoint (subs : List Submission) : Prop :=
  ∀ (i j : Nat) (x y : Submission), i ≠ j → subs[i]? = some x → subs[j]? = some y →
    x.req.inTree = some .writeRequests → y.req.inTree = some .writeRequests →
    x.req.overlaps y.req = false

theorem WriteDisjoint.set {l : List Submission} (h : WriteDisjoint l) {k : Nat} {y : Submission}
    (hy : y.req.inTree = some .writeRequests → ∀ j z, j ≠ k → l[j]? = some z →
      z.req.inTree = some .writeRequests → z.req.overlaps y.req = false) :
    WriteDisjoint (l.set k y) := by
  intro i j a b hij ha hb hta htb
  rcases getElem?_set_some ha with ⟨rfl, rfl⟩ | ⟨hi, ha⟩ <;>
    rcases getElem?_set_some hb with ⟨rfl, rfl⟩ | ⟨hj, hb⟩
  · exact absurd rfl hij
  · rw [Req.overlaps_comm]; exact hy hta j b (Ne.symm hj) hb htb
  · exact hy htb i a (Ne.symm hi) ha hta
  · exact h i j a b hij ha hb hta htb

/-- What holds of every request: one still with its submitter is in no tree and has its master
bio, and every one meets the epoch invariant. -/
structure Submission.Ok (cur : Nat) (x : Submission) : Prop where
  prepared : x.stage = .prepared → x.req.inTree = none ∧ x.req.masterBio = true
  epoch : EpochOk cur x.req

theorem Submission.Ok.mono {c c' : Nat} {x : Submission} (h : x.Ok c) (hc : c ≤ c') : x.Ok c' :=
  ⟨h.prepared, h.epoch.congr rfl rfl rfl hc⟩

/-- The invariant of the reachable states. -/
structure Sys.Inv (s : Sys) : Prop where
  slots : ∀ (i : Nat) (x : Submission), s.subs[i]? = some x → x.Ok s.dev.currentTleNr
  disjoint : WriteDisjoint s.subs

theorem Sys.Inv.init (d : Dev) : (Sys.init d).Inv :=
  ⟨fun _ _ h => by simp [Sys.init] at h, fun _ _ _ _ _ h => by simp [Sys.init] at h⟩

theorem Moves.tle {nc : NetConf} {s s' : Sys} (h : Moves nc s s') :
    s.dev.currentTleNr ≤ s'.dev.currentTleNr := by
  cases h with
  | stay | wait => exact le_rfl
  | arrive _ _ _ hc => exact hc.ge
  | route => exact (makeRequestLocked_routed nc _ _).tle
  | input i => exact (step_keeps nc i _ _).tle

theorem Moves.inv {nc : NetConf} {s s' : Sys} (h : Moves nc s s') (hi : s.Inv) : s'.Inv := by
  have hc := h.tle
  cases h with
  | stay => exact hi
  | arrive hn hm he _ =>
    refine ⟨fun i x hx => ?_, fun i j a b hij ha hb hta htb => ?_⟩
    · rcases getElem?_append_singleton_some hx with hx | rfl
      · exact (hi.slots i x hx).mono hc
      · exact ⟨fun _ => ⟨hn, hm⟩, ⟨by simp [he], fun _ h => by simp_all⟩⟩
    · rcases getElem?_append_singleton_some ha with ha | rfl
      · rcases getElem?_append_singleton_some hb with hb | rfl
        · exact hi.disjoint i j a b hij ha hb hta htb
        · simp_all
      · simp_all
  | wait j =>
    refine ⟨fun i x hx => ?_, fun i i' a b hij ha hb hta htb => ?_⟩
    · obtain ⟨x', hx', h'⟩ := getElem?_modify_some hx
      have ho := hi.slots i x' hx'
      rcases h' with rfl | rfl
      exacts [⟨ho.prepared, ho.epoch.congr rfl rfl rfl le_rfl⟩, ho]
    · obtain ⟨a', ha', h₁⟩ := getElem?_modify_some ha
      obtain ⟨b', hb', h₂⟩ := getElem?_modify_some hb
      have hd := hi.disjoint i i' a' b' hij ha' hb'
      rcases h₁ with rfl | rfl <;> rcases h₂ with rfl | rfl <;> exact hd hta htb
  | @route k r hk hfree =>
    have ho := makeRequestLocked_routed nc r s.dev
    have hr := hi.slots k _ hk
    refine ⟨fun i x hx => ?_, hi.disjoint.set fun ht j z hj hz hzt => ?_⟩
    · rcases getElem?_set_some hx with ⟨rfl, rfl⟩ | ⟨_, hx⟩
      · exact ⟨nofun, ho.epochOk hr.epoch (hr.prepared rfl).2⟩
      · exact (hi.slots i x hx).mono hc
    · rcases ho.tree ht with ht | hw
      · rw [show r.inTree = none from (hr.prepared rfl).1] at ht; cases ht
      · have hz' := List.findIdx?_eq_none_iff.1 (hfree hw) z (List.getElem?_mem hz)
        simp only [hzt, decide_True, Bool.true_and] at hz'
        rwa [Req.overlaps_congr ho.sector ho.size]
  | @input k r i hk =>
    have hs := step_keeps nc i r s.dev
    refine ⟨fun i' x hx => ?_, hi.disjoint.set fun ht j z hj hz hzt => ?_⟩
    · rcases getElem?_set_some hx with ⟨rfl, rfl⟩ | ⟨_, hx⟩
      · exact ⟨nofun, hs.epochOk (hi.slots k _ hk).epoch⟩
      · exact (hi.slots i' x hx).mono hc
    · rw [Req.overlaps_congr hs.sector hs.size]
      exact hi.disjoint j k z _ hj hz hk hzt ((hs.tree ht).resolve_right Bool.false_ne_true)

theorem sysRun_inv (nc : NetConf) :
    ∀ (acts : List SysAct) {s : Sys}, s.Inv → (sysRun nc acts s).Inv
  | [], _, h => h
  | a :: as, s, h => sysRun_inv nc as ((sysStep_moves nc s a).inv h)

/-- In every interleaving of submitters and inputs, no two requests in `write_requests`
overlap. -/
theorem write_requests_disjoint (nc : NetConf) (d₀ : Dev) (acts : List SysAct) :
    WriteDisjoint (sysRun nc acts (Sys.init d₀)).subs :=
  (sysRun_inv nc acts (Sys.Inv.init d₀)).disjoint

theorem sysRun_tle (nc : NetConf) :
    ∀ (acts : List SysAct) (s : Sys), s.dev.currentTleNr ≤ (sysRun nc acts s).dev.currentTleNr
  | [], _ => le_rfl
  | a :: as, s => (sysStep_moves nc s a).tle.trans (sysRun_tle nc as _)

/-- The master bio of the write in slot `k` has been handed out. -/
def Sys.handedOutWrite (s : Sys) (k : Nat) : Bool :=
  s.subs[k]?.any fun x => decide (x.req.rw = .write) && !x.req.masterBio

/-- The next submit of slot `k` reaches the epoch stamp with a write: its submitter holds a
write, `complete_conflicting_writes` finds no overlap, and the device is not suspended. -/
def Sys.stampsWrite (s : Sys) (k : Nat) : Bool :=
  match s.subs[k]? with
  | some ⟨r, .prepared⟩ =>
    decide (r.rw = .write) && (drbdFindOverlap s.subs r).isNone && !s.dev.suspended
  | _ => false

/-- The epoch of the request in slot `k`. -/
def Sys.epochOf (s : Sys) (k : Nat) : Option Nat := s.subs[k]?.map fun x => x.req.epoch

theorem Moves.routed_epoch {nc : NetConf} {s s' : Sys} (h : Moves nc s s') {k : Nat}
    {x : Submission} (hk : s.subs[k]? = some x) (hx : x.stage = .routed) :
    ∃ y, s'.subs[k]? = some y ∧ y.stage = .routed ∧ y.req.epoch = x.req.epoch := by
  cases h with
  | stay => exact ⟨x, hk, hx, rfl⟩
  | arrive => exact ⟨x, getElem?_append_of_some hk, hx, rfl⟩
  | wait j =>
    refine ⟨_, getElem?_modify_of_some hk, ?_⟩
    split_ifs <;> exact ⟨hx, rfl⟩
  | @route k' r hr _ =>
    have hne : k' ≠ k := by rintro rfl; rw [hk] at hr; cases hr; cases hx
    exact ⟨x, (List.getElem?_set_ne hne).trans hk, hx, rfl⟩
  | @input k' r i hr =>
    by_cases hne : k' = k
    · subst hne
      obtain rfl := Option.some.inj (hr.symm.trans hk)
      exact ⟨_, getElem?_set_of_some hk, rfl, (step_keeps nc i r s.dev).epoch⟩
    · exact ⟨x, (List.getElem?_set_ne hne).trans hk, hx, rfl⟩

theorem sysRun_routed_epoch (nc : NetConf) :
    ∀ (acts : List SysAct) {s : Sys} {k : Nat} {x : Submission}, s.subs[k]? = some x →
      x.stage = .routed → (sysRun nc acts s).epochOf k = some x.req.epoch
  | [], _, _, _, hk, _ => by simp [Sys.epochOf, sysRun, hk]
  | a :: as, s, _, _, hk, hx => by
    obtain ⟨y, hy, hys, hye⟩ := (sysStep_moves nc s a).routed_epoch hk hx
    rw [← hye]
    exact sysRun_routed_epoch nc as hy hys

theorem Sys.stampsWrite_step (nc : NetConf) {s : Sys} {k : Nat} (h : s.stampsWrite k = true) :
    ∃ r, s.subs[k]? = some ⟨r, .prepared⟩ ∧ r.rw = .write ∧ s.dev.suspended = false ∧
      sysStep nc s (.submit k) = ⟨s.subs.set k ⟨(makeRequestLocked nc r s.dev).req, .routed⟩,
        (makeRequestLocked nc r s.dev).dev⟩ := by
  unfold Sys.stampsWrite at h
  split at h
  · rename_i r hk
    simp only [Bool.and_eq_true, decide_eq_true_eq, Option.isNone_iff_eq_none,
      Bool.not_eq_true'] at h
    obtain ⟨⟨hw, hf⟩, hs⟩ := h
    exact ⟨r, hk, hw, hs, by simp [sysStep, hk, hw, hf]⟩
  · cases h

theorem Sys.Inv.stamp_after_handout {nc : NetConf} {s : Sys} (hi : s.Inv) {k₁ k₂ : Nat}
    (h₁ : s.handedOutWrite k₁ = true) (h₂ : s.stampsWrite k₂ = true) (post : List SysAct) :
    ∃ e₁, (sysRun nc post (sysStep nc s (.submit k₂))).epochOf k₁ = some e₁ ∧
      (sysRun nc post (sysStep nc s (.submit k₂))).epochOf k₂ = some s.dev.currentTleNr ∧
      e₁ < s.dev.currentTleNr := by
  obtain ⟨x, hx, hw, hm⟩ : ∃ x, s.subs[k₁]? = some x ∧ x.req.rw = .write ∧
      x.req.masterBio = false := by
    cases hk : s.subs[k₁]? <;> simp_all [Sys.handedOutWrite]
  have ho := hi.slots k₁ x hx
  have hxs : x.stage = .routed := by
    cases hs : x.stage
    · simp [(ho.prepared hs).2] at hm
    · rfl
  obtain ⟨r, hr, hrw, hsusp, hstep⟩ := Sys.stampsWrite_step nc h₂
  have hne : k₂ ≠ k₁ := by rintro rfl; rw [hx] at hr; cases hr; cases hxs
  have hk₁ : (sysStep nc s (.submit k₂)).subs[k₁]? = some x := by
    rw [hstep]; exact (List.getElem?_set_ne hne).trans hx
  have hk₂ : (sysStep nc s (.submit k₂)).subs[k₂]? =
      some ⟨(makeRequestLocked nc r s.dev).req, .routed⟩ := by
    rw [hstep]; exact getElem?_set_of_some hr
  refine ⟨x.req.epoch, sysRun_routed_epoch nc post hk₁ hxs, ?_, ho.epoch.closed hw hm⟩
  rw [sysRun_routed_epoch nc post hk₂ rfl]
  exact congrArg some ((makeRequestLocked_routed nc r s.dev).stamp hsusp hrw)

/-- Along every interleaving, `current_tle_nr` never decreases and no request's epoch is past
it; a write stamped after the master bio of another write was handed out gets a larger epoch,
and keeps it. -/
theorem handout_orders_later_stamps (nc : NetConf) (d₀ : Dev) (acts : List SysAct) :
    (∀ post, (sysRun nc acts (Sys.init d₀)).dev.currentTleNr ≤
      (sysRun nc (acts ++ post) (Sys.init d₀)).dev.currentTleNr) ∧
    (∀ x ∈ (sysRun nc acts (Sys.init d₀)).subs,
      x.req.epoch ≤ (sysRun nc acts (Sys.init d₀)).dev.currentTleNr) ∧
    ∀ k₁ k₂, (sysRun nc acts (Sys.init d₀)).handedOutWrite k₁ = true →
      (sysRun nc acts (Sys.init d₀)).stampsWrite k₂ = true → ∀ post, ∃ e₁,
        (sysRun nc (acts ++ .submit k₂ :: post) (Sys.init d₀)).epochOf k₁ = some e₁ ∧
        (sysRun nc (acts ++ .submit k₂ :: post) (Sys.init d₀)).epochOf k₂ =
          some (sysRun nc acts (Sys.init d₀)).dev.currentTleNr ∧
        e₁ < (sysRun nc acts (Sys.init d₀)).dev.currentTleNr := by
  have hi := sysRun_inv nc acts (Sys.Inv.init d₀)
  refine ⟨fun post => ?_, fun x hx => ?_, fun k₁ k₂ h₁ h₂ post => ?_⟩
  · rw [sysRun_append]; exact sysRun_tle nc post _
  · obtain ⟨i, hx⟩ := List.mem_iff_getElem?.1 hx
    exact (hi.slots i x hx).epoch.le
  · rw [sysRun_append]; exact hi.stamp_after_handout h₁ h₂ post

/-- A protocol C write sent, acknowledged and completed locally, then a second write to the
same sector. -/
def twoWrites : List SysAct :=
  [.arrive write4k (some (1234, none)), .submit 0, .input 0 (.ev .handedOverToNetwork),
    .input 0 (.ev .writeAckedByPeer), .input 0 (.endio 0), .arrive write4k (some (1300, none))]

theorem two_writes_epochs_ordered :
    (sysRun protoC twoWrites (Sys.init devOnePeer)).handedOutWrite 0 = true ∧
      (sysRun protoC twoWrites (Sys.init devOnePeer)).stampsWrite 1 = true ∧
      ∃ e₁, (sysRun protoC (twoWrites ++ [.submit 1]) (Sys.init devOnePeer)).epochOf 0 = some e₁ ∧
        (sysRun protoC (twoWrites ++ [.submit 1]) (Sys.init devOnePeer)).epochOf 1 =
          some (sysRun protoC twoWrites (Sys.init devOnePeer)).dev.currentTleNr ∧
        e₁ < (sysRun protoC twoWrites (Sys.init devOnePeer)).dev.currentTleNr :=
  have h₁ : (sysRun protoC twoWrites (Sys.init devOnePeer)).handedOutWrite 0 = true := by decide
  have h₂ : (sysRun protoC twoWrites (Sys.init devOnePeer)).stampsWrite 1 = true := by decide
  ⟨h₁, h₂, (handout_orders_later_stamps protoC devOnePeer twoWrites).2.2 0 1 h₁ h₂ []⟩

end Drbd
