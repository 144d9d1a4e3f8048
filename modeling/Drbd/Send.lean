import Mathlib.Data.Int.Defs
import Mathlib.Order.Basic
import Mathlib.Tactic.SplitIfs

/-! `drbd_send` of `drbd/drbd_main.c`: a header and a payload go out through repeated
`sock_sendmsg` calls on a two-entry iovec that is advanced past what each call sent, while a
timer may interrupt a blocked call. The socket always carries a prefix of header ++ data, in
order. But the loop compares the running total `sent` with sizes it has already decremented,
so it can stop early without an error, or send everything and then declare the connection
broken. -/
namespace Drbd

/-- `ERESTARTSYS`. -/
def ERESTARTSYS : Int := 512

/-- Modelled from the spec: `drbd.h` is not under src/. The connection states in the order of
`Drbd_CState`; `drbd_send` compares `cstate` with `WFReportParams` and sets `Timeout` or
`BrokenPipe`. -/
inductive CState
  | unconfigured | standAlone | unconnected | timeout | brokenPipe | wfConnection
  | wfReportParams | connected
  deriving DecidableEq, Repr

def CState.toNat : CState → Nat
  | .unconfigured => 0 | .standAlone => 1 | .unconnected => 2 | .timeout => 3
  | .brokenPipe => 4 | .wfConnection => 5 | .wfReportParams => 6 | .connected => 7

/-- A `struct iovec` over header ++ data: the offset of `iov_base`, and `iov_len`. -/
structure Iovec where
  base : Nat
  len : Nat
  deriving DecidableEq, Repr

/-- The offsets an iovec entry covers. -/
def Iovec.bytes (v : Iovec) : List Nat := List.range' v.base v.len

/-- One return of `sock_sendmsg`, with what `drbd_send` reads after it: whether `DRBD_SIG` is
pending, and whether the send timer has fired by then. -/
structure SendCall where
  rv : Int
  sigPending : Bool := false
  timerFired : Bool := false
  deriving DecidableEq, Repr

/-- The locals of the loop of `drbd_send`, with the offsets the socket has carried. -/
structure SendState where
  headerSize : Nat
  dataSize : Nat
  iov0 : Iovec
  iov1 : Iovec
  iovlen : Nat
  rv : Int
  sent : Int
  appGotSig : Bool
  timeoutHappened : Bool
  wire : List Nat
  deriving DecidableEq, Repr

/-- The state before the loop; when `conf.timeout` is 0 no timer is armed and
`ti.timeout_happened` keeps whatever the stack held (`garbage`). -/
def sendInit (armed garbage : Bool) (headerSize dataSize : Nat) : SendState :=
  ⟨headerSize, dataSize, ⟨0, headerSize⟩, ⟨headerSize, dataSize⟩, if 0 < dataSize then 2 else 1,
    0, 0, false, !armed && garbage, []⟩

/-- `sock_sendmsg(sock, &msg, header_size + data_size)` returning `rv`: the first `rv` bytes of
the entries of `msg_iov`. -/
def sockSendmsg (st : SendState) (rv : Int) : List Nat :=
  (st.iov0.bytes ++ if st.iovlen = 2 then st.iov1.bytes else []).take rv.toNat

/-- The iovec update after a partial send of `rv` bytes; `rv -= header_size` is the same
whether or not `header_size` is 0. -/
def advance (st : SendState) (rv : Nat) : SendState :=
  if rv < st.headerSize then
    { st with iov0 := ⟨st.iov0.base + rv, st.iov0.len - rv⟩, headerSize := st.headerSize - rv }
  else
    let st' := if st.headerSize ≠ 0 then { st with iov0 := st.iov1, iovlen := 1, headerSize := 0 }
      else st
    let rv := rv - st.headerSize
    { st' with iov0 := ⟨st'.iov0.base + rv, st'.iov0.len - rv⟩, dataSize := st'.dataSize - rv }

/-- The locals once `sock_sendmsg` returned `c.rv`: the bytes it sent are on the socket, and
the timer, if `armed` (`conf.timeout != 0`), may have fired. -/
def afterCall (armed : Bool) (st : SendState) (c : SendCall) : SendState :=
  { st with
    rv := c.rv
    timeoutHappened := st.timeoutHappened || (armed && c.timerFired)
    wire := st.wire ++ if 0 < c.rv then sockSendmsg st c.rv else [] }

/-- One pass of the `while(1)` loop; the flag says whether it leaves the loop. -/
def sendStep (armed : Bool) (st : SendState) (c : SendCall) : SendState × Bool :=
  let st := afterCall armed st c
  if c.rv = -ERESTARTSYS ∧ c.sigPending then
    if st.timeoutHappened then (st, true) else ({ st with appGotSig := true }, false)
  else if c.rv ≤ 0 then (st, true)
  else
    let st := { st with sent := st.sent + c.rv }
    if st.sent = ((st.headerSize + st.dataSize : Nat) : Int) then (st, true)
    else (advance st c.rv.toNat, false)

/-- The loop over the results of its `sock_sendmsg` calls; `none` if they run out before it
ends. -/
def sendLoop (armed : Bool) : List SendCall → SendState → Option SendState
  | [], _ => none
  | c :: cs, st =>
    let x := sendStep armed st c
    if x.2 then some x.1 else sendLoop armed cs x.1

/-- `drbd_send(mdev, header, header_size, data, data_size, via_msock)`: the return value, the new
`cstate`, and the offsets of header ++ data the socket carried. `sock` says whether the socket
exists, `timeout` is `conf.timeout`, `garbage` the value of the uninitialised
`ti.timeout_happened` when no timer is armed, and `lateFire` whether the timer fires between
the end of the loop and `del_timer_sync`. -/
def drbdSend (sock : Bool) (cstate : CState) (timeout : Nat) (garbage : Bool)
    (headerSize dataSize : Nat) (calls : List SendCall) (lateFire : Bool) :
    Option (Int × CState × List Nat) :=
  if !sock then some (-1000, cstate, [])
  else if cstate.toNat < CState.wfReportParams.toNat then some (-1001, cstate, [])
  else
    let armed := timeout ≠ 0
    (sendLoop armed calls (sendInit armed garbage headerSize dataSize)).map fun st =>
      if st.timeoutHappened || (armed && lateFire) then (-1002, .timeout, st.wire)
      else if st.rv ≤ 0 then (st.sent, .brokenPipe, st.wire)
      else (st.sent, cstate, st.wire)

/-- The bytes the entries of `msg_iov` cover, in order. -/
def SendState.pending (st : SendState) : List Nat :=
  st.iov0.bytes ++ if st.iovlen = 2 then st.iov1.bytes else []

/-- `header_size + data_size`: what is still to send. -/
def SendState.remaining (st : SendState) : Nat := st.headerSize + st.dataSize

/-- Every `sock_sendmsg` call returns at most the bytes it was asked for. -/
def callsOk (armed : Bool) : List SendCall → SendState → Bool
  | [], _ => true
  | c :: cs, st =>
    decide (c.rv ≤ st.remaining) && ((sendStep armed st c).2 || callsOk armed cs (sendStep armed st c).1)

theorem range'_take (k r m : Nat) (h : m ≤ r) : (List.range' k r).take m = List.range' k m := by
  rw [show r = (r - m) + m by omega, ← List.range'_append_1, List.take_left' (by simp)]

theorem range_append_range' (k m : Nat) : List.range k ++ List.range' k m = List.range (k + m) := by
  simpa [List.range_eq_range', Nat.add_comm] using List.range'_append_1 0 k m

/-- The entries of `msg_iov` cover the last `remaining` of the `n` bytes of header ++ data:
the rest of the header and the whole payload, or the rest of the payload alone. -/
structure IovShape (n : Nat) (st : SendState) : Prop where
  header : st.headerSize ≠ 0 → st.iov0 = ⟨n - (st.headerSize + st.dataSize), st.headerSize⟩ ∧
    st.iov1 = ⟨n - st.dataSize, st.dataSize⟩ ∧ (st.iovlen = 2 ∨ st.dataSize = 0)
  data : st.headerSize = 0 → st.iov0 = ⟨n - st.dataSize, st.dataSize⟩ ∧ st.iovlen = 1

theorem IovShape.pending {n : Nat} {st : SendState} (h : IovShape n st) (hr : st.remaining ≤ n) :
    st.pending = List.range' (n - st.remaining) st.remaining := by
  simp only [SendState.remaining] at *
  by_cases hh : st.headerSize = 0
  · obtain ⟨h0, h1⟩ := h.data hh
    simp [SendState.pending, Iovec.bytes, h0, h1, hh]
  · obtain ⟨h0, h1, h2⟩ := h.header hh
    have : n - (st.headerSize + st.dataSize) + st.headerSize = n - st.dataSize := by omega
    rcases h2 with h2 | h2
    · simp only [SendState.pending, Iovec.bytes, h0, h1, h2, if_true]
      rw [← this, List.range'_append_1, Nat.add_comm]
    · simp [SendState.pending, Iovec.bytes, h0, h1, h2]

@[simp] theorem advance_wire (st : SendState) (rv : Nat) : (advance st rv).wire = st.wire := by
  unfold advance; split_ifs <;> rfl

@[simp] theorem advance_sent (st : SendState) (rv : Nat) : (advance st rv).sent = st.sent := by
  unfold advance; split_ifs <;> rfl

theorem advance_remaining (st : SendState) (rv : Nat) :
    (advance st rv).remaining = st.remaining - rv := by
  unfold advance SendState.remaining
  split_ifs <;> dsimp only <;> omega

theorem advance_shape {n rv : Nat} {st : SendState} (h : IovShape n st) (hr : st.remaining ≤ n)
    (hrv : rv ≤ st.remaining) : IovShape n (advance st rv) := by
  simp only [SendState.remaining] at hr hrv
  unfold advance
  by_cases hh : st.headerSize = 0
  · obtain ⟨h0, h1⟩ := h.data hh
    simp only [hh, Nat.not_lt_zero, if_false, ne_eq, not_true_eq_false, Nat.sub_zero]
    refine ⟨fun h' => absurd rfl h', fun _ => ⟨?_, h1⟩⟩
    simp only [h0, Iovec.mk.injEq, and_true]; omega
  · obtain ⟨h0, h1, h2⟩ := h.header hh
    split_ifs with hlt
    · refine ⟨fun _ => ⟨?_, h1, h2⟩, fun h' => ?_⟩
      · simp only [h0, Iovec.mk.injEq, and_true]; omega
      · exact absurd h' (by simp only; omega)
    · refine ⟨fun h' => absurd rfl h', fun _ => ⟨?_, rfl⟩⟩
      simp only [h1, Iovec.mk.injEq, and_true]; omega

/-- The loop's locals between passes, for the `n` bytes of header ++ data: the socket has
carried the first `n - remaining` of them, in order, `sent` counts them, and `msg_iov` covers
the rest. -/
structure SendInv (n : Nat) (st : SendState) : Prop where
  bound : st.remaining ≤ n
  sent : st.sent = ((n - st.remaining : Nat) : Int)
  wire : st.wire = List.range (n - st.remaining)
  shape : IovShape n st

theorem sendInit_inv (armed garbage : Bool) {H : Nat} (D : Nat) (hH : 0 < H) :
    SendInv (H + D) (sendInit armed garbage H D) := by
  refine ⟨by simp [sendInit, SendState.remaining], by simp [sendInit, SendState.remaining],
    by simp [sendInit, SendState.remaining], fun _ => ?_, fun h => ?_⟩
  · simp only [sendInit, Nat.sub_self, Nat.add_sub_cancel, true_and]
    split_ifs <;> omega
  · simp [sendInit] at h; omega

theorem SendInv.afterCall_wire {n : Nat} {st : SendState} {c : SendCall} (h : SendInv n st)
    (armed : Bool) (hc : c.rv ≤ st.remaining) :
    (afterCall armed st c).wire = List.range (n - st.remaining + c.rv.toNat) := by
  have hb := h.bound
  simp only [afterCall]
  split_ifs with hpos
  · rw [sockSendmsg, ← SendState.pending, h.shape.pending hb, range'_take _ _ _ (by omega),
      h.wire, range_append_range']
  · simp [h.wire, Int.toNat_eq_zero.mpr (show c.rv ≤ 0 by omega)]

theorem sendStep_inv {n : Nat} {st : SendState} {c : SendCall} (h : SendInv n st) (armed : Bool)
    (hc : c.rv ≤ st.remaining) :
    ((sendStep armed st c).2 = false → SendInv n (sendStep armed st c).1) ∧
      ∃ k ≤ n, (sendStep armed st c).1.wire = List.range k ∧ (sendStep armed st c).1.sent = k := by
  have hb := h.bound
  have hw := h.afterCall_wire armed hc
  have hs := h.sent
  unfold sendStep
  dsimp only
  split_ifs with h1 h2 h3 h4
  · have : c.rv.toNat = 0 := by rw [h1.1]; rfl
    exact ⟨by simp, _, by omega, by simpa [this] using hw, hs⟩
  · have : c.rv.toNat = 0 := by rw [h1.1]; rfl
    refine ⟨fun _ => ⟨hb, hs, by simpa [this] using hw, h.shape.1, h.shape.2⟩,
      _, by omega, by simpa [this] using hw, hs⟩
  · exact ⟨by simp, _, by omega, by simpa [Int.toNat_eq_zero.mpr h3] using hw, hs⟩
  · refine ⟨by simp, _, (by omega : n - st.remaining + c.rv.toNat ≤ n), hw, ?_⟩
    simp only [afterCall, hs]; omega
  · have hrv : c.rv.toNat ≤ st.remaining := by omega
    have hsent : (afterCall armed st c).sent + c.rv = ((n - st.remaining + c.rv.toNat : Nat) : Int) := by
      simp only [afterCall, hs]; omega
    have hrem : (advance { afterCall armed st c with sent := (afterCall armed st c).sent + c.rv }
        c.rv.toNat).remaining = st.remaining - c.rv.toNat := by
      rw [advance_remaining]; rfl
    have hk : n - (st.remaining - c.rv.toNat) = n - st.remaining + c.rv.toNat := by omega
    dsimp only
    refine ⟨fun _ => ⟨by rw [hrem]; omega, ?_, ?_, advance_shape ⟨h.shape.1, h.shape.2⟩ hb hrv⟩,
      n - st.remaining + c.rv.toNat, by omega, by simpa using hw, by simpa using hsent⟩
    · rw [advance_sent, hrem, hk]; exact hsent
    · rw [advance_wire, hrem, hk]; exact hw

theorem sendLoop_prefix {n : Nat} {armed : Bool} :
    ∀ {cs : List SendCall} {st st' : SendState}, SendInv n st → callsOk armed cs st = true →
      sendLoop armed cs st = some st' → ∃ k ≤ n, st'.wire = List.range k ∧ st'.sent = k
  | [], _, _, _, _, h => by simp [sendLoop] at h
  | c :: cs, st, st', hi, hok, h => by
    simp only [callsOk, Bool.and_eq_true, decide_eq_true_eq, Bool.or_eq_true] at hok
    obtain ⟨hinv, hpre⟩ := sendStep_inv hi armed hok.1
    simp only [sendLoop] at h
    split_ifs at h with hx
    · cases h; exact hpre
    · exact sendLoop_prefix (hinv (by simpa using hx)) (hok.2.resolve_left hx) h

/-- `drbd_send` puts on the socket a prefix of header ++ data, in order, with no byte repeated
or skipped, whatever its `sock_sendmsg` calls return, as long as none returns more than it was
asked for. -/
theorem drbdSend_prefix {sock : Bool} {cstate : CState} {timeout : Nat} {garbage : Bool}
    {H D : Nat} {calls : List SendCall} {lateFire : Bool} {res : Int × CState × List Nat}
    (hH : 0 < H) (hok : callsOk (timeout ≠ 0) calls (sendInit (timeout ≠ 0) garbage H D) = true)
    (h : drbdSend sock cstate timeout garbage H D calls lateFire = some res) :
    ∃ k ≤ H + D, res.2.2 = List.range k := by
  unfold drbdSend at h
  split_ifs at h
  · cases h; exact ⟨0, by omega, rfl⟩
  · cases h; exact ⟨0, by omega, rfl⟩
  · obtain ⟨st, hst, rfl⟩ := Option.map_eq_some'.mp h
    obtain ⟨k, hk, hw, -⟩ := sendLoop_prefix (sendInit_inv _ garbage D hH) hok hst
    exact ⟨k, hk, by split_ifs <;> exact hw⟩

theorem drbdSend_prefix_two_halves :
    0 < 16 ∧
      callsOk (decide ((60 : Nat) ≠ 0)) [⟨8, false, false⟩, ⟨8, false, false⟩, ⟨0, false, false⟩]
        (sendInit (decide ((60 : Nat) ≠ 0)) false 16 0) = true ∧
      drbdSend true .connected 60 false 16 0
          [⟨8, false, false⟩, ⟨8, false, false⟩, ⟨0, false, false⟩] false =
        some (16, .brokenPipe, List.range 16) ∧
      ∃ k ≤ 16 + 0, (16, CState.brokenPipe, List.range 16).2.2 = List.range k :=
  have hok : callsOk (decide ((60 : Nat) ≠ 0))
      [⟨8, false, false⟩, ⟨8, false, false⟩, ⟨0, false, false⟩]
      (sendInit (decide ((60 : Nat) ≠ 0)) false 16 0) = true := by decide
  have h : drbdSend true .connected 60 false 16 0
      [⟨8, false, false⟩, ⟨8, false, false⟩, ⟨0, false, false⟩] false =
        some (16, .brokenPipe, List.range 16) := by decide
  ⟨by decide, hok, h, drbdSend_prefix (by decide) hok h⟩

/-! ### When `drbd_send` returns -1002 -/

theorem drbdSend_lateFire {cstate : CState} {timeout : Nat} {garbage : Bool} {H D : Nat}
    {calls : List SendCall} {res : Int × CState × List Nat}
    (hc : CState.wfReportParams.toNat ≤ cstate.toNat) (ht : timeout ≠ 0)
    (h : drbdSend true cstate timeout garbage H D calls true = some res) :
    res.1 = -1002 ∧ res.2.1 = .timeout := by
  rw [drbdSend, if_neg (by simp), if_neg (Nat.not_lt.2 hc)] at h
  obtain ⟨st, -, rfl⟩ := Option.map_eq_some'.1 h
  simp [ht]

/-- A 16-byte header with no payload, sent 8 bytes at a time: the socket carries all 16 bytes,
yet the loop goes on, asks for 0 bytes, gets 0, and declares the connection broken. A 10-byte
header sent 3 and then 4 bytes at a time: the loop stops after 7 bytes without an error. -/
theorem drbdSend_miscounts_sent :
    callsOk true [⟨8, false, false⟩, ⟨8, false, false⟩, ⟨0, false, false⟩]
        (sendInit true false 16 0) = true ∧
      drbdSend true .connected 60 false 16 0
          [⟨8, false, false⟩, ⟨8, false, false⟩, ⟨0, false, false⟩] false =
        some (16, .brokenPipe, List.range 16) ∧
      callsOk true [⟨3, false, false⟩, ⟨4, false, false⟩] (sendInit true false 10 0) = true ∧
      drbdSend true .connected 60 false 10 0 [⟨3, false, false⟩, ⟨4, false, false⟩] false =
        some (7, .connected, List.range 7) := by
  decide

end Drbd
