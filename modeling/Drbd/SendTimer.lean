import Drbd.Send
import Mathlib.Logic.Basic

/-! The send timers of drbd 0.6 (`drbd/drbd_main.c`). A `drbd_send` made while `conf.timeout` is
set arms a timer (`ti.s_timeout`) and, on the data socket, registers its `send_timer_info` as
`mdev->send_proc`. When the timer of a data-socket send expires, `drbd_timeout` sets `SEND_PING`,
wakes the asender and re-arms the timer while `ti.restart` is set; when the timer of a
meta-socket send expires, it marks that send timed out, and the send `send_proc` points at too,
and signals both. `drbd_a_timeout`, the ack timer, only sets `SEND_PING`. At its end `drbd_send`
reads `conf.timeout` a second time and, if it is set, clears `ti.restart` and `send_proc` and
removes the timer. A send made while `conf.timeout` is 0 arms nothing and leaves `ti`
uninitialised, so its `ti.timeout_happened` is whatever the stack held.

The timers feed `drbd_send` (`drbdSendFrom`): each `sock_sendmsg` return and the final check
read `ti.timeout_happened` as the timer events left it. Over every interleaving: only the meta
socket's timer makes a send return -1002, apart from a send that armed no timer, which returns
-1002 exactly when the stack held a nonzero `ti.timeout_happened`; once the meta socket's timer
has marked the data send in its loop, that send returns -1002; and while `conf.timeout` stays
set, a send returns only once its timer is gone and `send_proc` no longer points at it. A
configuration that clears `conf.timeout` during a send breaks the last: the send returns with
its timer pending and `send_proc` pointing at its returned frame. -/
namespace Drbd

/-- `struct send_timer_info` of one `drbd_send` call, as `drbd_timeout` and `drbd_send` use it:
`timeout_happened`, `via_msock`, `restart`, whether `s_timeout` is pending, and whether
`DRBD_SIG` was queued to `ti->task`. -/
structure SendTimerInfo where
  timeoutHappened : Bool
  viaMsock : Bool
  restart : Bool
  pending : Bool
  sig : Bool
  deriving DecidableEq, Repr

/-- How far a `drbd_send` that armed a timer is: in its loop, past `ti.restart = 0` (and
`mdev->send_proc = NULL` on the data socket), or past `del_timer_sync`. -/
inductive TimerPhase
  | loop | restartCleared | deleted
  deriving DecidableEq, Repr

/-- What the send timers of one device touch: `conf.timeout`; the `send_timer_info` of the send
with a timer in progress on the data socket (`sock`) and on the meta socket (`msock`), with how
far it is; whether `mdev->send_proc` is set (it points at the `send_timer_info` of the last
data-socket send that set it); `SEND_PING`; whether the asender was woken; the timers of sends
that returned with their timer still pending; the uninitialised `ti.timeout_happened` of a send
without a timer in progress on each socket; and whether `del_timer_sync` ran on a timer that was
never initialised. -/
structure TimerDev where
  timeout : Nat
  sock : Option (SendTimerInfo × TimerPhase)
  msock : Option (SendTimerInfo × TimerPhase)
  sendProc : Bool
  sendPing : Bool
  asenderWoken : Bool
  orphans : List SendTimerInfo
  sockUntimed : Option Bool
  msockUntimed : Option Bool
  wildDel : Bool
  deriving DecidableEq, Repr

/-- The send in progress on the socket `viaMsock` names. -/
def TimerDev.send (d : TimerDev) (viaMsock : Bool) : Option (SendTimerInfo × TimerPhase) :=
  if viaMsock then d.msock else d.sock

def TimerDev.setSend (d : TimerDev) (viaMsock : Bool) (x : Option (SendTimerInfo × TimerPhase)) :
    TimerDev :=
  if viaMsock then { d with msock := x } else { d with sock := x }

/-- The send without a timer in progress on the socket `viaMsock` names. -/
def TimerDev.untimed (d : TimerDev) (viaMsock : Bool) : Option Bool :=
  if viaMsock then d.msockUntimed else d.sockUntimed

def TimerDev.setUntimed (d : TimerDev) (viaMsock : Bool) (x : Option Bool) : TimerDev :=
  if viaMsock then { d with msockUntimed := x } else { d with sockUntimed := x }

/-- `drbd_timeout(ti)`, run once the timer of `ti` expired (so `ti.pending` is already false). On
the meta socket it sets `timeout_happened` and queues `DRBD_SIG`, for `ti` and for the send
`send_proc` points at; on the data socket it sets `SEND_PING`, wakes the asender and re-arms the
timer if `ti.restart`. -/
def drbdTimeout (ti : SendTimerInfo) (d : TimerDev) : SendTimerInfo × TimerDev :=
  if ti.viaMsock then
    ({ ti with timeoutHappened := true, sig := true },
      if d.sendProc then
        { d with
          sock := d.sock.map fun x => ({ x.1 with timeoutHappened := true, sig := true }, x.2) }
      else d)
  else
    (if ti.restart then { ti with pending := true } else ti,
      { d with sendPing := true, asenderWoken := true })

/-- `drbd_a_timeout(mdev)`: the ack timer sets `SEND_PING` and wakes the asender. -/
def drbdATimeout (d : TimerDev) : TimerDev := { d with sendPing := true, asenderWoken := true }

/-- The steps that touch the send timers: of a `drbd_send` that arms a timer, its start (`ti` set
up, the timer added, `send_proc` set on the data socket), the end's `if (mdev->conf.timeout)`
taken (`ti.restart = 0`, `send_proc = NULL`) and not taken (the send returns at once),
`del_timer_sync` and its return; of a `drbd_send` started while `conf.timeout` is 0, its start,
with the value the stack holds in `ti.timeout_happened`, and its end; the expiry of a pending
send timer; `drbd_a_timeout`; and two steps of code not under src/: the asender's `PingAck`,
which clears `SEND_PING` (from the spec), and the configuration setting `conf.timeout`. -/
inductive TimerEv
  | begin (viaMsock : Bool)
  | expire (viaMsock : Bool)
  | stopTimer (viaMsock : Bool)
  | delTimer (viaMsock : Bool)
  | finish (viaMsock : Bool)
  | beginUntimed (viaMsock garbage : Bool)
  | finishUntimed (viaMsock : Bool)
  | aTimeout
  | pingAck
  | setTimeout (t : Nat)
  deriving DecidableEq, Repr

/-- One step; `none` where it cannot happen. Each socket has one send at a time: `send_mutex`
serialises the data socket, and the meta socket is written by the asender alone (its code is not
under src/). A send without a timer that ends while `conf.timeout` is set takes the branch meant
for a timed send: it clears `send_proc` on the data socket and calls `del_timer_sync` on its
uninitialised timer. -/
def timerStep (d : TimerDev) : TimerEv → Option TimerDev
  | .begin v =>
    if d.timeout ≠ 0 ∧ d.send v = none ∧ d.untimed v = none then
      some { d.setSend v (some (⟨false, v, true, true, false⟩, .loop)) with
        sendProc := if v then d.sendProc else true }
    else none
  | .expire v =>
    match d.send v with
    | some (ti, p) =>
      if ti.pending then
        let r := drbdTimeout { ti with pending := false } d
        some (r.2.setSend v (some (r.1, p)))
      else none
    | none => none
  | .stopTimer v =>
    match d.send v with
    | some (ti, .loop) =>
      if d.timeout ≠ 0 then
        some { d.setSend v (some ({ ti with restart := false }, .restartCleared)) with
          sendProc := if v then d.sendProc else false }
      else none
    | _ => none
  | .delTimer v =>
    match d.send v with
    | some (ti, .restartCleared) =>
      some (d.setSend v (some ({ ti with pending := false }, .deleted)))
    | _ => none
  | .finish v =>
    match d.send v with
    | some (_, .deleted) => some (d.setSend v none)
    | some (ti, .loop) =>
      if d.timeout = 0 then
        some { d.setSend v none with orphans := d.orphans ++ if ti.pending then [ti] else [] }
      else none
    | _ => none
  | .beginUntimed v g =>
    if d.timeout = 0 ∧ d.send v = none ∧ d.untimed v = none then some (d.setUntimed v (some g))
    else none
  | .finishUntimed v =>
    match d.untimed v with
    | some _ =>
      if d.timeout ≠ 0 then
        some { d.setUntimed v none with
          sendProc := if v then d.sendProc else false, wildDel := true }
      else some (d.setUntimed v none)
    | none => none
  | .aTimeout => some (drbdATimeout d)
  | .pingAck => some { d with sendPing := false }
  | .setTimeout t => some { d with timeout := t }

def timerRun (d : TimerDev) : List TimerEv → Option TimerDev
  | [] => some d
  | ev :: evs => (timerStep d ev).bind (timerRun · evs)

/-- The state `drbd_init` leaves: `send_proc = NULL`, `flags = 0`, no send in progress. -/
def timerInit (timeout : Nat) : TimerDev :=
  ⟨timeout, none, none, false, false, false, [], none, none, false⟩

section Steps

variable {d d' : TimerDev} {v : Bool}

@[simp] theorem TimerDev.send_false (d : TimerDev) : d.send false = d.sock := rfl

@[simp] theorem TimerDev.send_true (d : TimerDev) : d.send true = d.msock := rfl

@[simp] theorem TimerDev.setSend_false (d : TimerDev) (x : Option (SendTimerInfo × TimerPhase)) :
    d.setSend false x = { d with sock := x } := rfl

@[simp] theorem TimerDev.setSend_true (d : TimerDev) (x : Option (SendTimerInfo × TimerPhase)) :
    d.setSend true x = { d with msock := x } := rfl

@[simp] theorem TimerDev.untimed_false (d : TimerDev) : d.untimed false = d.sockUntimed := rfl

@[simp] theorem TimerDev.untimed_true (d : TimerDev) : d.untimed true = d.msockUntimed := rfl

@[simp] theorem TimerDev.setUntimed_false (d : TimerDev) (x : Option Bool) :
    d.setUntimed false x = { d with sockUntimed := x } := rfl

@[simp] theorem TimerDev.setUntimed_true (d : TimerDev) (x : Option Bool) :
    d.setUntimed true x = { d with msockUntimed := x } := rfl

theorem timerStep_begin (h : timerStep d (.begin v) = some d') :
    d.timeout ≠ 0 ∧ d.send v = none ∧ d.untimed v = none ∧
      d' = { d.setSend v (some (⟨false, v, true, true, false⟩, .loop)) with
        sendProc := if v then d.sendProc else true } := by
  simp only [timerStep, Option.ite_none_right_eq_some, Option.some.injEq] at h
  exact ⟨h.1.1, h.1.2.1, h.1.2.2, h.2.symm⟩

theorem timerStep_beginUntimed {g : Bool} (h : timerStep d (.beginUntimed v g) = some d') :
    d.timeout = 0 ∧ d.send v = none ∧ d.untimed v = none ∧ d' = d.setUntimed v (some g) := by
  simp only [timerStep, Option.ite_none_right_eq_some, Option.some.injEq] at h
  exact ⟨h.1.1, h.1.2.1, h.1.2.2, h.2.symm⟩

theorem timerStep_finishUntimed (h : timerStep d (.finishUntimed v) = some d') :
    ∃ g, d.untimed v = some g ∧ d' = if d.timeout ≠ 0 then
      { d.setUntimed v none with sendProc := if v then d.sendProc else false, wildDel := true }
      else d.setUntimed v none := by
  simp only [timerStep] at h
  split at h
  · exact ⟨_, ‹_›, by split_ifs at h ⊢ <;> exact (Option.some.inj h).symm⟩
  · cases h

theorem timerStep_expire (h : timerStep d (.expire v) = some d') :
    ∃ ti p, d.send v = some (ti, p) ∧ ti.pending = true ∧
      d' = (drbdTimeout { ti with pending := false } d).2.setSend v
        (some ((drbdTimeout { ti with pending := false } d).1, p)) := by
  simp only [timerStep] at h
  split at h
  · simp only [Option.ite_none_right_eq_some, Option.some.injEq] at h
    exact ⟨_, _, ‹_›, h.1, h.2.symm⟩
  · cases h

theorem timerStep_stopTimer (h : timerStep d (.stopTimer v) = some d') :
    ∃ ti, d.send v = some (ti, .loop) ∧ d.timeout ≠ 0 ∧
      d' = { d.setSend v (some ({ ti with restart := false }, .restartCleared)) with
        sendProc := if v then d.sendProc else false } := by
  simp only [timerStep] at h
  split at h
  · simp only [Option.ite_none_right_eq_some, Option.some.injEq] at h
    exact ⟨_, ‹_›, h.1, h.2.symm⟩
  · cases h

theorem timerStep_delTimer (h : timerStep d (.delTimer v) = some d') :
    ∃ ti, d.send v = some (ti, .restartCleared) ∧
      d' = d.setSend v (some ({ ti with pending := false }, .deleted)) := by
  simp only [timerStep] at h
  split at h
  · exact ⟨_, ‹_›, (Option.some.inj h).symm⟩
  · cases h

theorem timerStep_finish (h : timerStep d (.finish v) = some d') :
    (∃ ti, d.send v = some (ti, .deleted) ∧ d' = d.setSend v none) ∨
      ∃ ti, d.send v = some (ti, .loop) ∧ d.timeout = 0 ∧
        d' = { d.setSend v none with orphans := d.orphans ++ if ti.pending then [ti] else [] } := by
  simp only [timerStep] at h
  split at h
  · exact .inl ⟨_, ‹_›, (Option.some.inj h).symm⟩
  · simp only [Option.ite_none_right_eq_some, Option.some.injEq] at h
    exact .inr ⟨_, ‹_›, h.1, h.2.symm⟩
  · cases h

theorem drbdTimeout_fst (ti : SendTimerInfo) (d : TimerDev) : (drbdTimeout ti d).1 =
    if ti.viaMsock then { ti with timeoutHappened := true, sig := true }
    else if ti.restart then { ti with pending := true } else ti := by
  unfold drbdTimeout; split_ifs <;> rfl

theorem drbdTimeout_snd (ti : SendTimerInfo) (d : TimerDev) : (drbdTimeout ti d).2 =
    if ti.viaMsock then
      (if d.sendProc then
        { d with
          sock := d.sock.map fun x => ({ x.1 with timeoutHappened := true, sig := true }, x.2) }
      else d)
    else { d with sendPing := true, asenderWoken := true } := by
  unfold drbdTimeout; split_ifs <;> rfl

@[simp] theorem drbdTimeout_sendProc (ti : SendTimerInfo) (d : TimerDev) :
    (drbdTimeout ti d).2.sendProc = d.sendProc := by
  unfold drbdTimeout; split_ifs <;> rfl

@[simp] theorem drbdTimeout_orphans (ti : SendTimerInfo) (d : TimerDev) :
    (drbdTimeout ti d).2.orphans = d.orphans := by
  unfold drbdTimeout; split_ifs <;> rfl

@[simp] theorem drbdTimeout_timeout (ti : SendTimerInfo) (d : TimerDev) :
    (drbdTimeout ti d).2.timeout = d.timeout := by
  unfold drbdTimeout; split_ifs <;> rfl

end Steps

theorem timerRun_invariant {P : TimerDev → Prop} {Q : TimerEv → Prop}
    (hstep : ∀ {d d' : TimerDev} {ev : TimerEv}, Q ev → P d → timerStep d ev = some d' → P d') :
    ∀ {evs : List TimerEv} {d d' : TimerDev}, (∀ ev ∈ evs, Q ev) → P d →
      timerRun d evs = some d' → P d'
  | [], _, _, _, h, hr => by cases hr; exact h
  | _ :: _, _, _, hq, h, hr => by
    obtain ⟨d₁, h₁, hr'⟩ := Option.bind_eq_some.1 hr
    exact timerRun_invariant hstep (fun ev hm => hq ev (List.mem_cons_of_mem _ hm))
      (hstep (hq _ (List.mem_cons_self _ _)) h h₁) hr'

/-! ### Every run -/

/-- A socket's send, if any, is for that socket, and its timer is not pending once
`del_timer_sync` returned. -/
def SlotOk (v : Bool) (x : Option (SendTimerInfo × TimerPhase)) : Prop :=
  ∀ ti p, x = some (ti, p) → ti.viaMsock = v ∧ (p = .deleted → ti.pending = false)

@[simp] theorem slotOk_none (v : Bool) : SlotOk v none := nofun

@[simp] theorem slotOk_some (v : Bool) (ti : SendTimerInfo) (p : TimerPhase) :
    SlotOk v (some (ti, p)) ↔ ti.viaMsock = v ∧ (p = .deleted → ti.pending = false) :=
  ⟨fun h => h ti p rfl, fun h _ _ e => by cases e; exact h⟩

theorem SlotOk.mark {v : Bool} {x : Option (SendTimerInfo × TimerPhase)} (h : SlotOk v x) :
    SlotOk v (x.map fun y => ({ y.1 with timeoutHappened := true, sig := true }, y.2)) := by
  rcases x with _ | ⟨ti, p⟩
  · simp
  · simpa using h ti p rfl

/-- What every run keeps, whatever the configuration does: each socket's send is its own and
has no pending timer past `del_timer_sync`, a data send in its loop has its timer pending,
`ti.restart` set, and `send_proc` pointing at it, and the data socket has one send at a time. -/
structure TimerWf (d : TimerDev) : Prop where
  sock : SlotOk false d.sock
  msock : SlotOk true d.msock
  loop : ∀ ti, d.sock = some (ti, .loop) → ti.pending = true ∧ ti.restart = true ∧ d.sendProc = true
  excl : d.sock = none ∨ d.sockUntimed = none

section Wf

variable {d d' : TimerDev}

theorem TimerWf.untimed_of_sock (h : TimerWf d) {x : SendTimerInfo × TimerPhase}
    (hn : d.sock = some x) : d.sockUntimed = none :=
  h.excl.resolve_left (by simp [hn])

theorem TimerWf.expire_sock (h : TimerWf d) {ti : SendTimerInfo} {p : TimerPhase}
    (hn : d.sock = some (ti, p)) (hp : ti.pending = true) :
    TimerWf ((drbdTimeout { ti with pending := false } d).2.setSend false
      (some ((drbdTimeout { ti with pending := false } d).1, p))) := by
  obtain ⟨hv, hd⟩ := h.sock _ _ hn
  have hpd : p ≠ .deleted := fun e => by simp [hd e] at hp
  simp only [drbdTimeout_fst, drbdTimeout_snd, hv, TimerDev.setSend_false, Bool.false_eq_true,
    if_false]
  refine ⟨?_, h.msock, fun _ e => ?_, .inr (h.untimed_of_sock hn)⟩
  · split_ifs <;> simp [hv, hpd]
  · obtain ⟨rfl, rfl⟩ := Prod.mk.inj (Option.some.inj e)
    obtain ⟨-, hr, hs⟩ := h.loop _ hn
    simp [hr, hs]

theorem TimerWf.expire_msock (h : TimerWf d) {ti : SendTimerInfo} {p : TimerPhase}
    (hn : d.msock = some (ti, p)) :
    TimerWf ((drbdTimeout { ti with pending := false } d).2.setSend true
      (some ((drbdTimeout { ti with pending := false } d).1, p))) := by
  have hv := (h.msock _ _ hn).1
  simp only [drbdTimeout_fst, drbdTimeout_snd, hv, TimerDev.setSend_true, if_true]
  split_ifs with hsp
  · refine ⟨h.sock.mark, by simp [hv], fun ti' e => ?_, ?_⟩
    · obtain ⟨⟨t, q⟩, hq, e'⟩ := Option.map_eq_some'.1 e
      obtain ⟨rfl, rfl⟩ := Prod.mk.inj e'
      exact ⟨(h.loop _ hq).1, (h.loop _ hq).2.1, hsp⟩
    · rcases h.excl with he | he <;> simp [he]
  · exact ⟨h.sock, by simp [hv], h.loop, h.excl⟩

theorem TimerWf.step (h : TimerWf d) {ev : TimerEv} (hs : timerStep d ev = some d') :
    TimerWf d' := by
  obtain ⟨hS, hM, hL, hE⟩ := h
  cases ev with
  | begin v =>
    obtain ⟨-, -, hu, rfl⟩ := timerStep_begin hs
    cases v
    · exact ⟨by simp, hM, by simp, .inr (by simpa using hu)⟩
    · exact ⟨hS, by simp, by simpa using hL, by simpa using hE⟩
  | expire v =>
    obtain ⟨ti, p, hn, hp, rfl⟩ := timerStep_expire hs
    cases v
    · exact TimerWf.expire_sock ⟨hS, hM, hL, hE⟩ hn hp
    · exact TimerWf.expire_msock ⟨hS, hM, hL, hE⟩ hn
  | stopTimer v =>
    obtain ⟨ti, hn, -, rfl⟩ := timerStep_stopTimer hs
    cases v <;> simp only [TimerDev.send_false, TimerDev.send_true] at hn
    · exact ⟨by simpa using (hS _ _ hn).1, hM, by simp, .inr (hE.resolve_left (by simp [hn]))⟩
    · exact ⟨hS, by simpa using (hM _ _ hn).1, by simpa using hL, hE⟩
  | delTimer v =>
    obtain ⟨ti, hn, rfl⟩ := timerStep_delTimer hs
    cases v <;> simp only [TimerDev.send_false, TimerDev.send_true] at hn
    · exact ⟨by simpa using (hS _ _ hn).1, hM, by simp, .inr (hE.resolve_left (by simp [hn]))⟩
    · exact ⟨hS, by simpa using (hM _ _ hn).1, hL, hE⟩
  | finish v =>
    rcases timerStep_finish hs with ⟨ti, hn, rfl⟩ | ⟨ti, hn, -, rfl⟩ <;> cases v
    all_goals first | exact ⟨by simp, hM, by simp, by simp⟩ | exact ⟨hS, by simp, hL, hE⟩
  | beginUntimed v g =>
    obtain ⟨-, hn, -, rfl⟩ := timerStep_beginUntimed hs
    cases v
    · exact ⟨hS, hM, hL, .inl (by simpa using hn)⟩
    · exact ⟨hS, hM, hL, hE⟩
  | finishUntimed v =>
    obtain ⟨g, hg, rfl⟩ := timerStep_finishUntimed hs
    by_cases ht : d.timeout ≠ 0
    all_goals first | rw [if_pos ht] | rw [if_neg ht]
    all_goals cases v
    all_goals first
      | exact ⟨hS, hM, hL, hE⟩
      | have hn : d.sock = none := hE.resolve_right (by simp_all)
        exact ⟨by simp [hn], hM, by simp [hn], by simp⟩
  | aTimeout => cases hs; exact ⟨hS, hM, hL, hE⟩
  | pingAck => cases hs; exact ⟨hS, hM, hL, hE⟩
  | setTimeout t => cases hs; exact ⟨hS, hM, hL, hE⟩

theorem TimerWf.run {evs : List TimerEv} (h : TimerWf d) (hr : timerRun d evs = some d') :
    TimerWf d' :=
  timerRun_invariant (Q := fun _ => True) (fun _ h hs => h.step hs) (fun _ _ => trivial) h hr

theorem TimerWf.deleted (h : TimerWf d) {v : Bool} {ti : SendTimerInfo}
    (hn : d.send v = some (ti, .deleted)) : ti.pending = false := by
  cases v
  · exact (h.sock _ _ hn).2 rfl
  · exact (h.msock _ _ hn).2 rfl

theorem TimerWf.init (t : Nat) : TimerWf (timerInit t) :=
  ⟨by simp [timerInit], by simp [timerInit], nofun, .inl rfl⟩

end Wf

/-! ### While `conf.timeout` stays set -/

/-- What a run keeps while the configuration never clears `conf.timeout`: `send_proc` is set only
while the data send is in its loop, no send returned with its timer pending, and with
`conf.timeout` at 0 (it has been 0 from the start) no send has a timer. -/
structure TimerInv (d : TimerDev) extends TimerWf d : Prop where
  sendProc : d.sendProc = true → ∃ ti, d.sock = some (ti, .loop)
  orphans : d.orphans = []
  off : d.timeout = 0 → d.sock = none ∧ d.msock = none

section Inv

variable {d d' : TimerDev}

theorem TimerInv.timeout_ne (h : TimerInv d) {v : Bool} {ti : SendTimerInfo} {p : TimerPhase}
    (hn : d.send v = some (ti, p)) : d.timeout ≠ 0 := fun h0 => by
  cases v <;> simp [(h.off h0).1, (h.off h0).2] at hn

theorem TimerInv.step (h : TimerInv d) {ev : TimerEv} (hev : ev ≠ .setTimeout 0)
    (hs : timerStep d ev = some d') : TimerInv d' := by
  have hw := h.toTimerWf.step hs
  have hP := h.sendProc
  cases ev with
  | begin v =>
    obtain ⟨ht, -, -, rfl⟩ := timerStep_begin hs
    cases v
    · exact ⟨hw, by simp, h.orphans, fun h0 => absurd h0 ht⟩
    · exact ⟨hw, by simpa using hP, h.orphans, fun h0 => absurd h0 ht⟩
  | expire v =>
    obtain ⟨ti, p, hn, -, rfl⟩ := timerStep_expire hs
    have ht := h.timeout_ne hn
    cases v
    · refine ⟨hw, fun hs' => ?_, by simpa using h.orphans, by simp [ht]⟩
      obtain ⟨ti', h'⟩ := hP (by simpa using hs')
      obtain ⟨-, rfl⟩ := Prod.mk.inj (Option.some.inj (hn.symm.trans h'))
      exact ⟨_, rfl⟩
    · refine ⟨hw, fun hs' => ?_, by simpa using h.orphans, by simp [ht]⟩
      simp only [TimerDev.setSend_true, drbdTimeout_sendProc] at hs'
      obtain ⟨ti', h'⟩ := hP hs'
      simp [drbdTimeout_snd, hs', h', (h.msock _ _ hn).1]
  | stopTimer v =>
    obtain ⟨ti, -, ht, rfl⟩ := timerStep_stopTimer hs
    cases v
    · exact ⟨hw, by simp, h.orphans, fun h0 => absurd h0 ht⟩
    · exact ⟨hw, by simpa using hP, h.orphans, fun h0 => absurd h0 ht⟩
  | delTimer v =>
    obtain ⟨ti, hn, rfl⟩ := timerStep_delTimer hs
    have ht := h.timeout_ne hn
    cases v <;> simp only [TimerDev.send_false, TimerDev.send_true] at hn
    · refine ⟨hw, fun hs' => ?_, h.orphans, fun h0 => absurd h0 ht⟩
      obtain ⟨ti', h'⟩ := hP hs'
      simp [hn] at h'
    · exact ⟨hw, hP, h.orphans, fun h0 => absurd h0 ht⟩
  | finish v =>
    rcases timerStep_finish hs with ⟨ti, hn, rfl⟩ | ⟨ti, hn, h0, -⟩
    · have ht := h.timeout_ne hn
      cases v <;> simp only [TimerDev.send_false, TimerDev.send_true] at hn
      · refine ⟨hw, fun hs' => ?_, h.orphans, fun h0 => absurd h0 ht⟩
        obtain ⟨ti', h'⟩ := hP hs'
        simp [hn] at h'
      · exact ⟨hw, hP, h.orphans, fun h0 => absurd h0 ht⟩
    · exact absurd h0 (h.timeout_ne hn)
  | beginUntimed v g =>
    obtain ⟨-, -, -, rfl⟩ := timerStep_beginUntimed hs
    cases v <;> exact ⟨hw, hP, h.orphans, h.off⟩
  | finishUntimed v =>
    obtain ⟨g, -, rfl⟩ := timerStep_finishUntimed hs
    by_cases ht : d.timeout ≠ 0
    all_goals first | rw [if_pos ht] at hw ⊢ | rw [if_neg ht] at hw ⊢
    all_goals cases v
    all_goals first | exact ⟨hw, hP, h.orphans, h.off⟩ | exact ⟨hw, nofun, h.orphans, h.off⟩
  | aTimeout => cases hs; exact ⟨hw, hP, h.orphans, h.off⟩
  | pingAck => cases hs; exact ⟨hw, hP, h.orphans, h.off⟩
  | setTimeout t =>
    cases hs
    exact ⟨hw, hP, h.orphans, fun h0 => absurd h0 (by simpa [eq_comm] using hev)⟩

theorem TimerInv.run {evs : List TimerEv} (h : TimerInv d) (hev : ∀ ev ∈ evs, ev ≠ .setTimeout 0)
    (hr : timerRun d evs = some d') : TimerInv d' :=
  timerRun_invariant (fun hq h hs => h.step hq hs) hev h hr

theorem TimerInv.init (t : Nat) : TimerInv (timerInit t) :=
  ⟨TimerWf.init t, nofun, rfl, fun _ => ⟨rfl, rfl⟩⟩

end Inv

/-- While the configuration never clears `conf.timeout`, a `drbd_send` returns only after
`del_timer_sync`, with its timer no longer pending, and `send_proc` then points only at a data
send still in its loop: no timer is left on the frame of a send that returned. -/
theorem send_returns_after_timer_removed (t : Nat) (evs : List TimerEv)
    (h : ∀ ev ∈ evs, ev ≠ .setTimeout 0) :
    ∀ d ∈ timerRun (timerInit t) evs, ∀ v d', timerStep d (.finish v) = some d' →
      (∃ ti, d.send v = some (ti, .deleted) ∧ ti.pending = false) ∧
        (d'.sendProc = true → ∃ ti, d'.sock = some (ti, .loop)) := fun d hd v d' hf => by
  have hi := (TimerInv.init t).run h hd
  rcases timerStep_finish hf with ⟨ti, hn, -⟩ | ⟨ti, hn, h0, -⟩
  · exact ⟨⟨ti, hn, hi.deleted hn⟩, (hi.step (by simp) hf).sendProc⟩
  · exact absurd h0 (hi.timeout_ne hn)

/-- A data send, beside a meta-socket send, whose own timer expires in its loop (a ping is asked
for and the timer re-armed) and once more after `ti.restart = 0`, before `del_timer_sync`. -/
def pingThenReturn : List TimerEv :=
  [.begin false, .begin true, .expire false, .stopTimer false, .expire false, .delTimer false]

theorem send_returns_after_ping : (∀ ev ∈ pingThenReturn, ev ≠ .setTimeout 0) ∧
    ∀ d ∈ timerRun (timerInit 60) pingThenReturn, ∀ v d', timerStep d (.finish v) = some d' →
      (∃ ti, d.send v = some (ti, .deleted) ∧ ti.pending = false) ∧
        (d'.sendProc = true → ∃ ti, d'.sock = some (ti, .loop)) :=
  have h : ∀ ev ∈ pingThenReturn, ev ≠ .setTimeout 0 := by decide
  ⟨h, send_returns_after_timer_removed 60 pingThenReturn h⟩

/-! ### Who makes a send time out -/

/-- No send of a slot has `timeout_happened` set or `DRBD_SIG` queued. -/
def SlotQuiet (x : Option (SendTimerInfo × TimerPhase)) : Prop :=
  ∀ ti p, x = some (ti, p) → ti.timeoutHappened = false ∧ ti.sig = false

@[simp] theorem slotQuiet_none : SlotQuiet none := nofun

@[simp] theorem slotQuiet_some (ti : SendTimerInfo) (p : TimerPhase) :
    SlotQuiet (some (ti, p)) ↔ ti.timeoutHappened = false ∧ ti.sig = false :=
  ⟨fun h => h ti p rfl, fun h _ _ e => by cases e; exact h⟩

section Quiet

variable {d d' : TimerDev}

theorem slotQuiet_step (hw : TimerWf d) (hq : SlotQuiet d.sock ∧ SlotQuiet d.msock)
    {ev : TimerEv} (hev : ev ≠ .expire true) (hs : timerStep d ev = some d') :
    SlotQuiet d'.sock ∧ SlotQuiet d'.msock := by
  obtain ⟨hS, hM⟩ := hq
  cases ev with
  | begin v =>
    obtain ⟨-, -, -, rfl⟩ := timerStep_begin hs
    cases v
    · exact ⟨by simp, hM⟩
    · exact ⟨hS, by simp⟩
  | expire v =>
    obtain ⟨ti, p, hn, -, rfl⟩ := timerStep_expire hs
    cases v
    · have hv := (hw.sock _ _ hn).1
      simp only [TimerDev.setSend_false, drbdTimeout_fst, drbdTimeout_snd, hv, Bool.false_eq_true,
        if_false]
      refine ⟨?_, hM⟩
      split_ifs <;> simpa using hS _ _ hn
    · exact absurd rfl hev
  | stopTimer v =>
    obtain ⟨ti, hn, -, rfl⟩ := timerStep_stopTimer hs
    cases v
    · exact ⟨by simpa using hS _ _ hn, hM⟩
    · exact ⟨hS, by simpa using hM _ _ hn⟩
  | delTimer v =>
    obtain ⟨ti, hn, rfl⟩ := timerStep_delTimer hs
    cases v
    · exact ⟨by simpa using hS _ _ hn, hM⟩
    · exact ⟨hS, by simpa using hM _ _ hn⟩
  | finish v =>
    rcases timerStep_finish hs with ⟨ti, -, rfl⟩ | ⟨ti, -, -, rfl⟩ <;> cases v
    all_goals first | exact ⟨by simp, hM⟩ | exact ⟨hS, by simp⟩
  | beginUntimed v g =>
    obtain ⟨-, -, -, rfl⟩ := timerStep_beginUntimed hs
    cases v <;> exact ⟨hS, hM⟩
  | finishUntimed v =>
    obtain ⟨g, -, rfl⟩ := timerStep_finishUntimed hs
    by_cases h0 : d.timeout ≠ 0
    all_goals first | rw [if_pos h0] | rw [if_neg h0]
    all_goals cases v <;> exact ⟨hS, hM⟩
  | aTimeout => cases hs; exact ⟨hS, hM⟩
  | pingAck => cases hs; exact ⟨hS, hM⟩
  | setTimeout t => cases hs; exact ⟨hS, hM⟩

/-- A well-formed state in which no send is marked. -/
def TimerQuiet (d : TimerDev) : Prop := TimerWf d ∧ SlotQuiet d.sock ∧ SlotQuiet d.msock

theorem TimerQuiet.step (h : TimerQuiet d) {ev : TimerEv} (hev : ev ≠ .expire true)
    (hs : timerStep d ev = some d') : TimerQuiet d' :=
  ⟨h.1.step hs, slotQuiet_step h.1 h.2 hev hs⟩

theorem TimerQuiet.run {evs : List TimerEv} (h : TimerQuiet d) (hev : TimerEv.expire true ∉ evs)
    (hr : timerRun d evs = some d') : TimerQuiet d' :=
  timerRun_invariant (Q := (· ≠ .expire true)) (fun hne h hs => h.step hne hs)
    (fun _ hm e => hev (e ▸ hm)) h hr

theorem TimerQuiet.init (t : Nat) : TimerQuiet (timerInit t) :=
  ⟨TimerWf.init t, by simp [timerInit], by simp [timerInit]⟩

/-- What a step does to the data send: nothing, the expiry of the meta socket's timer marking it,
or one of the data send's own steps. -/
theorem timerStep_sock {ev : TimerEv} (hs : timerStep d ev = some d') :
    d'.sock = d.sock ∨
      d'.sock = d.sock.map (fun x => ({ x.1 with timeoutHappened := true, sig := true }, x.2)) ∨
      ev = .begin false ∨ ev = .expire false ∨ ev = .stopTimer false ∨ ev = .delTimer false ∨
      ev = .finish false := by
  cases ev with
  | begin v =>
    cases v
    · exact .inr (.inr (.inl rfl))
    · obtain ⟨-, -, -, rfl⟩ := timerStep_begin hs; exact .inl rfl
  | expire v =>
    cases v
    · exact .inr (.inr (.inr (.inl rfl)))
    · obtain ⟨ti, p, -, -, rfl⟩ := timerStep_expire hs
      simp only [TimerDev.setSend_true, drbdTimeout_snd]
      split_ifs <;> simp
  | stopTimer v =>
    cases v
    · exact .inr (.inr (.inr (.inr (.inl rfl))))
    · obtain ⟨-, -, -, rfl⟩ := timerStep_stopTimer hs; exact .inl rfl
  | delTimer v =>
    cases v
    · exact .inr (.inr (.inr (.inr (.inr (.inl rfl)))))
    · obtain ⟨-, -, rfl⟩ := timerStep_delTimer hs; exact .inl rfl
  | finish v =>
    cases v
    · exact .inr (.inr (.inr (.inr (.inr (.inr rfl)))))
    · rcases timerStep_finish hs with ⟨-, -, rfl⟩ | ⟨-, -, -, rfl⟩ <;> exact .inl rfl
  | beginUntimed v g =>
    obtain ⟨-, -, -, rfl⟩ := timerStep_beginUntimed hs
    cases v <;> exact .inl rfl
  | finishUntimed v =>
    obtain ⟨g, -, rfl⟩ := timerStep_finishUntimed hs
    by_cases h0 : d.timeout ≠ 0
    all_goals first | rw [if_pos h0] | rw [if_neg h0]
    all_goals cases v <;> exact .inl rfl
  | aTimeout => cases hs; exact .inl rfl
  | pingAck => cases hs; exact .inl rfl
  | setTimeout t => cases hs; exact .inl rfl

theorem sock_loop_step {ti : SendTimerInfo} (hn : d.sock = some (ti, .loop)) {ev : TimerEv}
    (hst : ev ≠ .stopTimer false) (hf : ev ≠ .finish false) (hs : timerStep d ev = some d') :
    ∃ ti', d'.sock = some (ti', .loop) := by
  rcases timerStep_sock hs with h | h | rfl | rfl | rfl | rfl | rfl
  · exact ⟨ti, h.trans hn⟩
  · exact ⟨_, by rw [h, hn]; rfl⟩
  · have := (timerStep_begin hs).2.1
    simp [hn] at this
  · obtain ⟨ti₁, p₁, hn₁, -, rfl⟩ := timerStep_expire hs
    obtain ⟨-, rfl⟩ := Prod.mk.inj (Option.some.inj (hn.symm.trans hn₁))
    exact ⟨_, rfl⟩
  · exact absurd rfl hst
  · obtain ⟨_, hn₁, -⟩ := timerStep_delTimer hs
    simp [hn] at hn₁
  · exact absurd rfl hf

theorem sock_loop_run {evs : List TimerEv} (hn : ∃ ti, d.sock = some (ti, .loop))
    (hst : TimerEv.stopTimer false ∉ evs) (hf : TimerEv.finish false ∉ evs)
    (hr : timerRun d evs = some d') : ∃ ti, d'.sock = some (ti, .loop) :=
  timerRun_invariant (P := fun d => ∃ ti, d.sock = some (ti, .loop))
    (Q := fun ev => ev ≠ .stopTimer false ∧ ev ≠ .finish false)
    (fun hne ⟨_, hn⟩ hs => sock_loop_step hn hne.1 hne.2 hs)
    (fun _ hm => ⟨fun e => hst (e ▸ hm), fun e => hf (e ▸ hm)⟩) hn hr

theorem msock_expire_marks (hw : TimerWf d) {ti : SendTimerInfo} (hl : d.sock = some (ti, .loop))
    (hs : timerStep d (.expire true) = some d') :
    ∃ ti' p', d'.sock = some (ti', p') ∧ ti'.timeoutHappened = true ∧ ti'.sig = true := by
  obtain ⟨tm, p, hn, -, rfl⟩ := timerStep_expire hs
  have hv := (hw.msock _ _ hn).1
  have hsp := (hw.loop _ hl).2.2
  exact ⟨{ ti with timeoutHappened := true, sig := true }, .loop,
    by simp [drbdTimeout_snd, hv, hsp, hl], rfl, rfl⟩

theorem sock_timedOut_step {ti : SendTimerInfo} {p : TimerPhase} (hn : d.sock = some (ti, p))
    (ht : ti.timeoutHappened = true ∧ ti.sig = true) {ev : TimerEv} (hev : ev ≠ .finish false)
    (hs : timerStep d ev = some d') :
    ∃ ti' p', d'.sock = some (ti', p') ∧ ti'.timeoutHappened = true ∧ ti'.sig = true := by
  rcases timerStep_sock hs with h | h | rfl | rfl | rfl | rfl | rfl
  · exact ⟨ti, p, h.trans hn, ht⟩
  · exact ⟨{ ti with timeoutHappened := true, sig := true }, p, by rw [h, hn]; rfl, rfl, rfl⟩
  · have := (timerStep_begin hs).2.1
    simp [hn] at this
  · obtain ⟨ti₁, p₁, hn₁, -, rfl⟩ := timerStep_expire hs
    obtain ⟨rfl, rfl⟩ := Prod.mk.inj (Option.some.inj (hn.symm.trans hn₁))
    refine ⟨_, _, rfl, ?_⟩
    simp only [drbdTimeout_fst]
    split_ifs <;> simp [ht]
  · obtain ⟨ti₁, hn₁, -, rfl⟩ := timerStep_stopTimer hs
    obtain ⟨rfl, -⟩ := Prod.mk.inj (Option.some.inj (hn.symm.trans hn₁))
    exact ⟨_, _, rfl, ht⟩
  · obtain ⟨ti₁, hn₁, rfl⟩ := timerStep_delTimer hs
    obtain ⟨rfl, -⟩ := Prod.mk.inj (Option.some.inj (hn.symm.trans hn₁))
    exact ⟨_, _, rfl, ht⟩
  · exact absurd rfl hev

theorem sock_timedOut_run {evs : List TimerEv}
    (hm : ∃ ti p, d.sock = some (ti, p) ∧ ti.timeoutHappened = true ∧ ti.sig = true)
    (hev : TimerEv.finish false ∉ evs) (hr : timerRun d evs = some d') :
    ∃ ti p, d'.sock = some (ti, p) ∧ ti.timeoutHappened = true ∧ ti.sig = true :=
  timerRun_invariant (P := fun d => ∃ ti p, d.sock = some (ti, p) ∧ ti.timeoutHappened = true ∧
      ti.sig = true) (Q := (· ≠ .finish false))
    (fun hne ⟨_, _, hn, ht⟩ hs => sock_timedOut_step hn ht hne hs)
    (fun _ hm e => hev (e ▸ hm)) hm hr

end Quiet

/-! ### What `drbd_send` returns -/

/-- `ti.timeout_happened` of the send with a timer in progress on socket `v`. -/
def TimerDev.timedOut (d : TimerDev) (v : Bool) : Bool :=
  match d.send v with
  | some (ti, _) => ti.timeoutHappened
  | none => false

/-- The returns of the `sock_sendmsg` calls of the send on socket `v`, each with whether
`DRBD_SIG` is pending and after the timer events that come before it; the loop reads
`ti.timeout_happened` as those events left it. -/
def sendCalls (v : Bool) : TimerDev → List (List TimerEv × Int × Bool) →
    Option (List SendCall × TimerDev)
  | d, [] => some ([], d)
  | d, (evs, rv, sig) :: segs =>
    (timerRun d evs).bind fun d₁ =>
      (sendCalls v d₁ segs).map fun y => (⟨rv, sig, d₁.timedOut v⟩ :: y.1, y.2)

/-- `drbd_send(mdev, header, header_size, data, data_size, via_msock = v)` on a live socket in
connection state `cstate`, started in `d`. Its early return comes before any timer. Otherwise it
arms a timer if `conf.timeout` is set, and if not keeps the stack's `garbage` in
`ti.timeout_happened`; its `sock_sendmsg` returns come with the timer events before each
(`segs`); `after` are the events up to its final `if (ti.timeout_happened)`, its own end steps
among them; then it returns. -/
def drbdSendFrom (d : TimerDev) (v garbage : Bool) (cstate : CState) (headerSize dataSize : Nat)
    (segs : List (List TimerEv × Int × Bool)) (after : List TimerEv) :
    Option ((Int × CState × List Nat) × TimerDev) :=
  if cstate.toNat < CState.wfReportParams.toNat then
    (drbdSend true cstate d.timeout garbage headerSize dataSize [] false).map (·, d)
  else
    (timerStep d (if d.timeout ≠ 0 then .begin v else .beginUntimed v garbage)).bind fun d₁ =>
      (sendCalls v d₁ segs).bind fun y => (timerRun y.2 after).bind fun d₂ =>
        (drbdSend true cstate d.timeout garbage headerSize dataSize y.1 (d₂.timedOut v)).bind
          fun r => (timerStep d₂ (if d.timeout ≠ 0 then .finish v else .finishUntimed v)).map (r, ·)

section DrbdSend

variable {d d' : TimerDev} {v : Bool}

theorem timerRun_append (d : TimerDev) (xs ys : List TimerEv) :
    timerRun d (xs ++ ys) = (timerRun d xs).bind (timerRun · ys) := by
  induction xs generalizing d with
  | nil => rfl
  | cons ev xs ih => simp only [List.cons_append, timerRun.eq_2, Option.bind_assoc, ih]

theorem sendCalls_run : ∀ {segs : List (List TimerEv × Int × Bool)} {d d' : TimerDev}
    {cs : List SendCall}, sendCalls v d segs = some (cs, d') →
      timerRun d (segs.flatMap (·.1)) = some d'
  | [], _, _, _, h => by cases h; rfl
  | (evs, rv, sig) :: segs, d, d', cs, h => by
    obtain ⟨d₁, h₁, h₂⟩ := Option.bind_eq_some.1 h
    obtain ⟨y, h₃, hy⟩ := Option.map_eq_some'.1 h₂
    cases hy
    simp only [List.flatMap_cons, timerRun_append, h₁, Option.some_bind]
    exact sendCalls_run h₃

theorem drbdSendFrom_some {g : Bool} {cst : CState} {hsz dsz : Nat}
    {segs : List (List TimerEv × Int × Bool)} {after : List TimerEv}
    {r : Int × CState × List Nat} (hc : CState.wfReportParams.toNat ≤ cst.toNat)
    (hr : drbdSendFrom d v g cst hsz dsz segs after = some (r, d')) :
    ∃ d₁ cs d₂ d₃, timerStep d (if d.timeout ≠ 0 then .begin v else .beginUntimed v g) = some d₁ ∧
      sendCalls v d₁ segs = some (cs, d₂) ∧ timerRun d₂ after = some d₃ ∧
      drbdSend true cst d.timeout g hsz dsz cs (d₃.timedOut v) = some r := by
  rw [drbdSendFrom, if_neg (Nat.not_lt.2 hc)] at hr
  simp only [Option.bind_eq_some, Option.map_eq_some', Prod.mk.injEq] at hr
  obtain ⟨d₁, h₁, ⟨cs, d₂⟩, h₂, d₃, h₃, r', h₄, -, -, rfl, -⟩ := hr
  exact ⟨d₁, cs, d₂, d₃, h₁, h₂, h₃, h₄⟩

theorem TimerQuiet.timedOut (h : TimerQuiet d) (v : Bool) : d.timedOut v = false := by
  have hq : SlotQuiet (d.send v) := by cases v; exacts [h.2.1, h.2.2]
  unfold TimerDev.timedOut
  rcases hn : d.send v with _ | ⟨ti, p⟩
  · rfl
  · exact (hq ti p hn).1

end DrbdSend

/-- A data send and a meta-socket send in their loops. -/
def bothSending : TimerDev :=
  ⟨60, some (⟨false, false, true, true, false⟩, .loop),
    some (⟨false, true, true, true, false⟩, .loop), true, false, false, [], none, none, false⟩

/-- A meta-socket send in its loop. -/
def msockSending : TimerDev :=
  ⟨60, none, some (⟨false, true, true, true, false⟩, .loop), false, false, false, [], none, none,
    false⟩

/-- Once the meta socket's timer expires while a data send is in its loop, that data send
returns -1002 and sets `Timeout`: its `timeout_happened` stays set until its final check, even if
`conf.timeout` is cleared meanwhile. -/
theorem msock_timeout_aborts_data_send {t : Nat} {evs₀ : List TimerEv} {d d' : TimerDev}
    {g : Bool} {cst : CState} {hsz dsz : Nat} {segs : List (List TimerEv × Int × Bool)}
    {after : List TimerEv} {r : Int × CState × List Nat}
    (h₀ : timerRun (timerInit t) evs₀ = some d) (ht : d.timeout ≠ 0)
    (hc : CState.wfReportParams.toNat ≤ cst.toNat)
    (hm : TimerEv.expire true ∈ segs.flatMap (·.1))
    (hst : TimerEv.stopTimer false ∉ segs.flatMap (·.1))
    (hf : TimerEv.finish false ∉ segs.flatMap (·.1) ++ after)
    (hr : drbdSendFrom d false g cst hsz dsz segs after = some (r, d')) :
    r.1 = -1002 ∧ r.2.1 = .timeout := by
  obtain ⟨d₁, cs, d₂, d₃, h₁, h₂, h₃, h₄⟩ := drbdSendFrom_some hc hr
  rw [if_pos ht] at h₁
  have hw₁ := ((TimerWf.init t).run h₀).step h₁
  have hl₁ : ∃ ti, d₁.sock = some (ti, .loop) := by
    obtain ⟨-, -, -, rfl⟩ := timerStep_begin h₁; exact ⟨_, rfl⟩
  obtain ⟨E₁, E₂, hE⟩ := List.append_of_mem hm
  have hr₂ := sendCalls_run h₂
  rw [hE, timerRun_append] at hr₂
  obtain ⟨e₁, hr₁, hr₂⟩ := Option.bind_eq_some.1 hr₂
  obtain ⟨e₂, hx, hr₂⟩ := Option.bind_eq_some.1 hr₂
  rw [hE] at hst hf
  simp only [List.mem_append, List.mem_cons, not_or] at hst hf
  obtain ⟨ti, hl⟩ := sock_loop_run hl₁ hst.1 hf.1.1 hr₁
  have hmk := msock_expire_marks (hw₁.run hr₁) hl hx
  have hr₃ : timerRun e₂ (E₂ ++ after) = some d₃ := by
    rw [timerRun_append, hr₂, Option.some_bind, h₃]
  have hf₃ : TimerEv.finish false ∉ E₂ ++ after := by
    simp only [List.mem_append, not_or]; exact ⟨hf.1.2.2, hf.2⟩
  obtain ⟨ti₃, p₃, hn₃, hth, -⟩ := sock_timedOut_run hmk hf₃ hr₃
  have hto : d₃.timedOut false = true := by simp [TimerDev.timedOut, hn₃, hth]
  exact drbdSend_lateFire hc ht (by rwa [hto] at h₄)

/-- A data send of an 8-byte header whose `sock_sendmsg` is interrupted by the meta socket's
timer: the call returns `-ERESTARTSYS` with `DRBD_SIG` pending, the loop sees
`timeout_happened` and stops, and the send ends through `ti.restart = 0` and
`del_timer_sync`. -/
theorem msock_timeout_aborts_data_send_both :
    timerRun (timerInit 60) [.begin true] = some msockSending ∧ msockSending.timeout ≠ 0 ∧
      CState.wfReportParams.toNat ≤ CState.connected.toNat ∧
      TimerEv.expire true ∈ [([TimerEv.expire true], -ERESTARTSYS, true)].flatMap (·.1) ∧
      TimerEv.stopTimer false ∉ [([TimerEv.expire true], -ERESTARTSYS, true)].flatMap (·.1) ∧
      TimerEv.finish false ∉ [([TimerEv.expire true], -ERESTARTSYS, true)].flatMap (·.1) ++
        [.stopTimer false, .delTimer false] ∧
      drbdSendFrom msockSending false false .connected 8 0
          [([.expire true], -ERESTARTSYS, true)] [.stopTimer false, .delTimer false] =
        some ((-1002, .timeout, []),
          { msockSending with msock := some (⟨true, true, true, false, true⟩, .loop) }) ∧
      ((-1002 : Int), CState.timeout, ([] : List Nat)).1 = -1002 ∧
      ((-1002 : Int), CState.timeout, ([] : List Nat)).2.1 = .timeout := by
  refine ⟨?h₀, ?ht, ?hc, ?hm, ?hst, ?hf, ?hr,
    msock_timeout_aborts_data_send ?h₀ ?ht ?hc ?hm ?hst ?hf ?hr⟩ <;> decide

/-- `drbd_send` reads `conf.timeout` again at its end. If the configuration clears it while a
data-socket send is in its loop, the send returns without `ti.restart = 0`, `send_proc = NULL`
or `del_timer_sync`: its timer is left pending on the returned frame, and `send_proc` still
points at that frame. -/
theorem timeout_cleared_leaves_timer_pending {t : Nat} {evs₀ : List TimerEv} {d : TimerDev}
    {ti : SendTimerInfo} (h₀ : timerRun (timerInit t) evs₀ = some d)
    (hl : d.sock = some (ti, .loop)) :
    ∃ d', timerRun d [.setTimeout 0, .finish false] = some d' ∧ d'.sock = none ∧
      d'.sendProc = true ∧ ti.pending = true ∧ ti ∈ d'.orphans := by
  obtain ⟨hp, -, hs⟩ := ((TimerWf.init t).run h₀).loop _ hl
  exact ⟨{ d with timeout := 0, sock := none, orphans := d.orphans ++ [ti] },
    by simp [timerRun, timerStep, hl, hp], rfl, hs, hp, by simp⟩

theorem timeout_cleared_leaves_timer_pending_both :
    timerRun (timerInit 60) [.begin false, .begin true] = some bothSending ∧
      bothSending.sock = some (⟨false, false, true, true, false⟩, .loop) ∧
      ∃ d', timerRun bothSending [.setTimeout 0, .finish false] = some d' ∧ d'.sock = none ∧
        d'.sendProc = true ∧ (⟨false, false, true, true, false⟩ : SendTimerInfo).pending = true ∧
        ⟨false, false, true, true, false⟩ ∈ d'.orphans :=
  have h₀ : timerRun (timerInit 60) [.begin false, .begin true] = some bothSending := rfl
  ⟨h₀, rfl, timeout_cleared_leaves_timer_pending h₀ rfl⟩

end Drbd
