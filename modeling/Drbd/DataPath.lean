import Drbd.TransferLog
import Drbd.Bitmap
import Mathlib.Data.List.Perm.Basic

/-! The data path of the primary in drbd 0.6 (`drbd/drbd_main.c`). `drbd_send_data` sends a
barrier first when `ISSUE_BARRIER` is set (`_drbd_send_barrier`, which appends it to the
transfer log), then the block; it records the block's request in the log if the whole packet
went out, and marks the block out of sync otherwise. A `BarrierAck` takes the oldest epoch off
the log (`tl_release`), a `WriteAck` blanks the request (`tl_dependence`), and on the loss of the
connection `tl_clear` marks the block of every request left in the log out of sync.

What the data path is for is stated over the FIFO the transfer log implements (`SenderSpec`):
the log, the writes the peer acknowledged (by a `WriteAck` naming them, or by the `BarrierAck` of
their epoch), and the writes marked for resync. The ring and the bitmap implement it over every
connected run that never fills the ring, never sends a barrier into an empty log, and
acknowledges each epoch with its barrier's number and size; on such a run `tl_release` reports
nothing, and no write is lost or counted twice. After the connection is lost, the next resync
pass returns the block of every write the peer did not acknowledge. -/
namespace Drbd

/-- `ID_SYNCER` of `drbd_int.h`, which is not under src/: the block id the syncer sends its
blocks with, `(u64)-1`, which no request pointer has. -/
def idSyncer : Nat := 2 ^ 64 - 1

/-- Modelled from the spec: `drbd.h` is not under src/. `DRBD_PROT_A`, `DRBD_PROT_B` and
`DRBD_PROT_C`, the values of `conf.wire_protocol`. -/
def drbdProtA : Nat := 1

def drbdProtB : Nat := 2

def drbdProtC : Nat := 3

/-- Modelled from the spec: `sizeof(Drbd_Data_Packet)`, the header (`u32 magic`, `u16 command`,
`u16 length`) and `u64 block_nr`, `u64 block_id`. -/
def dataPacketSize : Nat := 24

/-- Modelled from the spec: `sizeof(Drbd_Barrier_Packet)`, the header and `u32 barrier`. -/
def barrierPacketSize : Nat := 12

/-- The fields of `struct Drbd_Conf` the data path changes: the transfer log, the bitmap
`mbds_id`, the `ISSUE_BARRIER` bit of `flags`, and `pending_cnt`. -/
structure Sender (n : Nat) (a : Arch) where
  tl : TransferLog n
  mbds : BitMap a
  issueBarrier : Bool
  pendingCnt : Int

/-- What the data path reads and never changes: `conf.wire_protocol`, `blk_size_b`, and
`GET_SECTOR` of each request. -/
structure SendConf where
  wireProtocol : Nat
  blkSizeB : Nat
  sector : Nat → Nat

/-- The block of a request that `tl_clear` marks: `GET_SECTOR(req) >> (blk_size_b - 9)`. -/
def SendConf.blockOf (cf : SendConf) (x : Nat) : Nat := cf.sector x >>> (cf.blkSizeB - 9)

/-- The bit `bm_set_bit(.., b, blk_size_b, ..)` writes for block `b`. -/
def SendConf.bitOf (cf : SendConf) (b : Nat) : Nat := b >>> (bmBlockSizeB - cf.blkSizeB)

section DataPath

variable {n : Nat} {a : Arch}

/-- `_drbd_send_barrier(mdev)` whose `drbd_send` returns `r`: `tl_add_barrier`, then
`inc_pending` if the whole packet went out. It returns `r`. -/
def drbdSendBarrier (s : Sender n a) (r : Int) : Sender n a × Int :=
  ({ s with
      tl := (tlAddBarrier s.tl).1
      pendingCnt := if r = barrierPacketSize then s.pendingCnt + 1 else s.pendingCnt }, r)

/-- `drbd_send_data(mdev, data, data_size, block_nr, block_id)` whose calls of `drbd_send`
return `rb` (the barrier, sent first if `ISSUE_BARRIER` was set) and `ret` (the block). -/
def drbdSendData (cf : SendConf) (s : Sender n a) (dataSize blockNr blockId : Nat)
    (rb ret : Int) : Sender n a × Int :=
  let s := if s.issueBarrier then (drbdSendBarrier { s with issueBarrier := false } rb).1 else s
  let whole := decide (ret = ((dataSize + dataPacketSize : Nat) : Int))
  let s := if whole && decide (cf.wireProtocol ≠ drbdProtA) then
    { s with pendingCnt := s.pendingCnt + 1 } else s
  if blockId ≠ idSyncer then
    if whole then ({ s with tl := (tlAdd s.tl blockId).1 }, ret)
    else ({ s with mbds := bmSetBit s.mbds blockNr cf.blkSizeB true }, 0)
  else (s, ret)

/-- `tl_clear(mdev)` with what it does at each request it visits: `bm_set_bit` of the request's
block out of sync, and under protocols B and C `drbd_end_req` and `dec_pending` for a request
whose status is not `RQ_DRBD_SENT` (`isSent` false). -/
def drbdTlClear (cf : SendConf) (isSent : Nat → Bool) (s : Sender n a) : Sender n a :=
  { s with
    tl := (tlClear s.tl).1
    mbds := bmSetBits cf.blkSizeB (((tlClear s.tl).2.map cf.blockOf).map (·, true)) s.mbds
    pendingCnt :=
      if cf.wireProtocol = drbdProtB ∨ cf.wireProtocol = drbdProtC then
        s.pendingCnt - ((tlClear s.tl).2.filter fun x => !isSent x).length
      else s.pendingCnt }

/-- What reaches the data path: a call of `drbd_send_data` (by the request path, or by the
syncer with `ID_SYNCER`), `set_bit(ISSUE_BARRIER)`, a `BarrierAck` (`tl_release`), a `WriteAck`
(`tl_dependence`), and the loss of the connection (`tl_clear`, with the status of each
request). -/
inductive SendEv
  | data (dataSize blockNr blockId : Nat) (rb ret : Int)
  | issueBarrier
  | barrierAck (nr size : Nat)
  | writeAck (id : Nat)
  | connLost (isSent : Nat → Bool)

/-- The request of a write handed to `drbd_send_data`, if the event is one. -/
def SendEv.write? : SendEv → Option Nat
  | .data _ _ x _ _ => if x ≠ idSyncer then some x else none
  | _ => none

/-- One event on the data path, with what `tl_release` prints for a `BarrierAck`; `none` where
`tl_release` finds no barrier and never returns. -/
def senderStep (cf : SendConf) (s : Sender n a) : SendEv → Option (Sender n a × List TlReport)
  | .data sz b x rb ret => some ((drbdSendData cf s sz b x rb ret).1, [])
  | .issueBarrier => some ({ s with issueBarrier := true }, [])
  | .barrierAck nr size => (tlRelease s.tl nr size).map fun y => ({ s with tl := y.1 }, [y.2])
  | .writeAck x => some ({ s with tl := (tlDependence s.tl x).1 }, [])
  | .connLost isSent => some (drbdTlClear cf isSent s, [])

def senderRun (cf : SendConf) : List SendEv → Sender n a → Option (Sender n a × List TlReport)
  | [], s => some (s, [])
  | ev :: evs, s => (senderStep cf s ev).bind fun y =>
    (senderRun cf evs y.1).map fun z => (z.1, y.2 ++ z.2)

end DataPath

/-! ### What the data path is for -/

/-- The data path while the connection lasts: the transfer log as the FIFO it implements, the
writes the peer acknowledged, the writes marked for resync with their block, and
`ISSUE_BARRIER`. -/
structure SenderSpec where
  tl : TlSpec
  acked : List Nat
  oos : List (Nat × Nat)
  issueBarrier : Bool
  deriving DecidableEq

/-- The FIFO after a call it allows. -/
def TlSpec.call (n : Nat) (A : TlSpec) (op : TlOp) : Option TlSpec := (A.apply n op).map (·.1)

/-- The writes the spec keeps: in the log, acknowledged, or marked. -/
def SenderSpec.tracked (A : SenderSpec) : List Nat :=
  A.tl.requests ++ A.acked ++ A.oos.map Prod.fst

/-- One event within a ring of `n` slots. `drbd_send_data` appends through the calls of the
FIFO, so it is `none` when the barrier would go into an empty log or an append would fill the
ring. A `BarrierAck` must name the oldest barrier and the size of its epoch, and the epoch's
requests are then acknowledged; a `WriteAck` acknowledges its request if the log holds it. The
loss of the connection ends the spec. -/
def SenderSpec.step (n : Nat) (A : SenderSpec) : SendEv → Option SenderSpec
  | .data sz b x _ ret =>
    let whole := decide (ret = ((sz + dataPacketSize : Nat) : Int))
    (if A.issueBarrier then A.tl.call n .addBarrier else some A.tl).bind fun T =>
      (if x ≠ idSyncer ∧ whole then T.call n (.add x) else some T).map fun T =>
        { A with
          tl := T
          oos := if x ≠ idSyncer ∧ !whole then A.oos ++ [(x, b)] else A.oos
          issueBarrier := false }
  | .issueBarrier => some { A with issueBarrier := true }
  | .barrierAck nr size =>
    match splitEpoch A.tl.log with
    | some (ep, m, rest) =>
      if nr = m ∧ size = ep.length then
        some { A with
          tl := { A.tl with front := true, log := rest }
          acked := A.acked ++ ep.filterMap fun e => e.slot.req? }
      else none
    | none => none
  | .writeAck x =>
    some { A with
      tl := { A.tl with log := (blankEntry x A.tl.log.reverse).1.reverse }
      acked := A.acked ++ if TlEntry.req x ∈ A.tl.log then [x] else [] }
  | .connLost _ => none

def SenderSpec.run (n : Nat) : SenderSpec → List SendEv → Option SenderSpec
  | A, [] => some A
  | A, ev :: evs => (A.step n ev).bind fun A' => SenderSpec.run n A' evs

/-- The spec of a sender whose ring is empty: nothing logged, acknowledged or marked. -/
def SenderSpec.ofEmpty {n : Nat} {a : Arch} (s : Sender n a) : SenderSpec :=
  ⟨⟨false, [], s.tl.barrierNrIssue⟩, [], [], s.issueBarrier⟩

section Implements

variable {n : Nat} {a : Arch} {cf : SendConf}

theorem drbdSendData_tl (s : Sender n a) (sz b x : Nat) (rb ret : Int) :
    (drbdSendData cf s sz b x rb ret).1.tl =
      if x ≠ idSyncer ∧ ret = ((sz + dataPacketSize : Nat) : Int) then
        (tlAdd (if s.issueBarrier then (tlAddBarrier s.tl).1 else s.tl) x).1
      else if s.issueBarrier then (tlAddBarrier s.tl).1 else s.tl := by
  simp only [drbdSendData, drbdSendBarrier, apply_ite Prod.fst, apply_ite Sender.tl, ite_self,
    ite_and, decide_eq_true_eq]

theorem drbdSendData_mbds (s : Sender n a) (sz b x : Nat) (rb ret : Int) :
    (drbdSendData cf s sz b x rb ret).1.mbds =
      if x ≠ idSyncer ∧ ¬ret = ((sz + dataPacketSize : Nat) : Int) then
        bmSetBit s.mbds b cf.blkSizeB true
      else s.mbds := by
  simp only [drbdSendData, drbdSendBarrier, apply_ite Prod.fst, apply_ite Sender.mbds, ite_self,
    ite_and, decide_eq_true_eq, ite_not]

theorem drbdSendData_issueBarrier (s : Sender n a) (sz b x : Nat) (rb ret : Int) :
    (drbdSendData cf s sz b x rb ret).1.issueBarrier = false := by
  simp only [drbdSendData, drbdSendBarrier, apply_ite Prod.fst, apply_ite Sender.issueBarrier,
    ite_self]
  split <;> simp_all

/-- The ring and the bitmap implement the spec: the ring refines its FIFO, `ISSUE_BARRIER` is
the spec's, and the bit of every marked block is set where the bitmap has it. -/
structure Sender.Implements (cf : SendConf) (s : Sender n a) (A : SenderSpec) : Prop where
  refines : Refines s.tl A.tl
  flag : s.issueBarrier = A.issueBarrier
  marked : ∀ p ∈ A.oos, cf.bitOf p.2 / a.bpl < s.mbds.size → s.mbds.bit (cf.bitOf p.2) = true

theorem Refines.call {t : TransferLog n} {A A' : TlSpec} {op : TlOp} (h : Refines t A)
    (hA : A.call n op = some A') : ∃ t', (t.apply op).map (·.1) = some t' ∧ Refines t' A' := by
  obtain ⟨⟨A₁, o⟩, hA', he⟩ := Option.map_eq_some'.1 hA
  cases he
  obtain ⟨t', ht, hr⟩ := h.apply hA'
  exact ⟨t', by simp [ht], hr⟩

theorem Refines.call_addBarrier {t : TransferLog n} {A A' : TlSpec} (h : Refines t A)
    (hA : A.call n .addBarrier = some A') : Refines (tlAddBarrier t).1 A' := by
  obtain ⟨t', ht, hr⟩ := h.call hA
  cases ht
  exact hr

theorem Refines.call_add {t : TransferLog n} {A A' : TlSpec} {x : Nat} (h : Refines t A)
    (hA : A.call n (.add x) = some A') : Refines (tlAdd t x).1 A' := by
  obtain ⟨t', ht, hr⟩ := h.call hA
  cases ht
  exact hr

theorem Sender.Implements.data {s : Sender n a} {A A' : SenderSpec} (h : s.Implements cf A)
    {sz b x : Nat} {rb ret : Int} (hA : A.step n (.data sz b x rb ret) = some A') :
    (drbdSendData cf s sz b x rb ret).1.Implements cf A' := by
  simp only [SenderSpec.step, Option.bind_eq_some, Option.map_eq_some'] at hA
  obtain ⟨T₁, h₁, T₂, h₂, rfl⟩ := hA
  have r₁ : Refines (if s.issueBarrier then (tlAddBarrier s.tl).1 else s.tl) T₁ := by
    rw [h.flag]
    split at h₁
    · rw [if_pos ‹_›]; exact h.refines.call_addBarrier h₁
    · rw [if_neg ‹_›]; cases h₁; exact h.refines
  refine ⟨?_, drbdSendData_issueBarrier s sz b x rb ret, fun p hp hs => ?_⟩
  · dsimp only
    rw [drbdSendData_tl]
    generalize (if s.issueBarrier then (tlAddBarrier s.tl).1 else s.tl) = T at r₁ ⊢
    simp only [decide_eq_true_eq] at h₂
    split_ifs at h₂ ⊢
    · exact r₁.call_add h₂
    · cases h₂; exact r₁
  · dsimp only at hp
    rw [drbdSendData_mbds] at hs ⊢
    by_cases hx : x ≠ idSyncer ∧ ¬ret = ((sz + dataPacketSize : Nat) : Int)
    · rw [if_pos (by simpa using hx)] at hp
      rw [if_pos hx] at hs ⊢
      rw [bmSetBit_size] at hs
      rw [bmSetBit_true_bit]
      rcases List.mem_append.1 hp with hp | hp
      · rw [h.marked p hp hs, Bool.true_or]
      · obtain rfl := List.mem_singleton.1 hp
        simp only [SendConf.bitOf] at hs ⊢
        simp [hs]
    · have hx' : ¬(x ≠ idSyncer ∧ (!decide (ret = ((sz + dataPacketSize : Nat) : Int))) = true) := by
        simpa using hx
      rw [if_neg hx] at hs ⊢
      rw [if_neg hx'] at hp
      exact h.marked p hp hs

theorem Sender.Implements.barrierAck {s : Sender n a} {A A' : SenderSpec} (h : s.Implements cf A)
    {nr size : Nat} (hA : A.step n (.barrierAck nr size) = some A') :
    ∃ s', senderStep cf s (.barrierAck nr size) = some (s', [⟨false, false, false⟩]) ∧
      s'.Implements cf A' := by
  simp only [SenderSpec.step] at hA
  split at hA
  · rename_i ep m rest hs
    split_ifs at hA with hc
    obtain ⟨rfl, rfl⟩ := hc
    cases hA
    obtain ⟨t', ht', hr⟩ := h.refines.release hs
    exact ⟨{ s with tl := t' }, by simp [senderStep, ht'], ⟨hr, h.flag, h.marked⟩⟩
  · cases hA

theorem Sender.Implements.step {s : Sender n a} {A A' : SenderSpec} {ev : SendEv}
    (h : s.Implements cf A) (hA : A.step n ev = some A') :
    ∃ s' rs, senderStep cf s ev = some (s', rs) ∧ (∀ r ∈ rs, r = ⟨false, false, false⟩) ∧
      s'.Implements cf A' := by
  cases ev with
  | data sz b x rb ret => exact ⟨_, [], rfl, by simp, h.data hA⟩
  | issueBarrier => cases hA; exact ⟨_, [], rfl, by simp, ⟨h.refines, rfl, h.marked⟩⟩
  | barrierAck nr size =>
    obtain ⟨s', hs, hi⟩ := h.barrierAck hA
    exact ⟨s', _, hs, by simp, hi⟩
  | writeAck x =>
    cases hA
    exact ⟨_, [], rfl, by simp, ⟨(h.refines.dependence x).1, h.flag, h.marked⟩⟩
  | connLost isSent => cases hA

theorem Sender.Implements.run : ∀ {evs : List SendEv} {s : Sender n a} {A A' : SenderSpec},
    s.Implements cf A → A.run n evs = some A' →
      ∃ s' rs, senderRun cf evs s = some (s', rs) ∧ (∀ r ∈ rs, r = ⟨false, false, false⟩) ∧
        s'.Implements cf A'
  | [], s, _, _, h, hA => ⟨s, [], rfl, by simp, by cases hA; exact h⟩
  | _ :: _, _, _, _, h, hA => by
    obtain ⟨A₁, h₁, hA'⟩ := Option.bind_eq_some.1 hA
    obtain ⟨s₁, rs₁, hs₁, hr₁, hi₁⟩ := h.step h₁
    obtain ⟨s', rs', hs', hr', hi'⟩ := hi₁.run hA'
    refine ⟨s', rs₁ ++ rs', by simp [senderRun, hs₁, hs'], fun r hr => ?_, hi'⟩
    rcases List.mem_append.1 hr with hr | hr
    exacts [hr₁ r hr, hr' r hr]

theorem Sender.Implements.connLost {s : Sender n a} {A : SenderSpec} (h : s.Implements cf A)
    (isSent : Nat → Bool) :
    ∀ p ∈ A.oos ++ A.tl.requests.map (fun x => (x, cf.blockOf x)),
      cf.bitOf p.2 / a.bpl < s.mbds.size → (drbdTlClear cf isSent s).mbds.bit (cf.bitOf p.2) = true := by
  intro p hp hs
  simp only [drbdTlClear, bmSetBits_size] at hs ⊢
  rw [bmSetBits_true_bit, h.refines.clear.1]
  rcases List.mem_append.1 hp with hp | hp
  · rw [h.marked p hp hs, Bool.true_or]
  · obtain ⟨x, hx, rfl⟩ := List.mem_map.1 hp
    simp only [Bool.or_eq_true, List.any_eq_true, decide_eq_true_eq]
    exact Or.inr ⟨cf.blockOf x, List.mem_map_of_mem _ hx, rfl, hs⟩

end Implements

/-! ### No write is lost or counted twice -/

theorem blankEntry_requests (x : Nat) : ∀ l : List TlEntry,
    (blankEntry x l).1.filterMap (fun e => e.slot.req?) =
      (l.filterMap fun e => e.slot.req?).erase x
  | [] => rfl
  | e :: l => by
    simp only [blankEntry, blankNewest] at *
    split_ifs with h
    · simp only [decide_eq_true_eq] at h
      subst h
      simp [TlEntry.slot, TlSlot.req?]
    · have ih := blankEntry_requests x l
      simp only [blankEntry] at ih
      cases e <;> simp_all [TlEntry.slot, TlSlot.req?, List.erase_cons]

theorem TlSpec.call_addBarrier_requests {n : Nat} {A A' : TlSpec}
    (h : A.call n .addBarrier = some A') : A'.requests = A.requests := by
  simp only [TlSpec.call, TlSpec.apply] at h
  split_ifs at h <;> simp only [Option.map_some', Option.map_none', Option.some.injEq,
    reduceCtorEq] at h
  subst h
  simp [TlSpec.requests, TlEntry.slot, TlSlot.req?]

theorem TlSpec.call_add_requests {n x : Nat} {A A' : TlSpec} (h : A.call n (.add x) = some A') :
    A'.requests = A.requests ++ [x] := by
  simp only [TlSpec.call, TlSpec.apply] at h
  split_ifs at h <;> simp only [Option.map_some', Option.map_none', Option.some.injEq,
    reduceCtorEq] at h
  subst h
  simp [TlSpec.requests, TlEntry.slot, TlSlot.req?]

theorem SenderSpec.step_tracked {n : Nat} {A A' : SenderSpec} {ev : SendEv}
    (hA : A.step n ev = some A') : (A.tracked ++ ev.write?.toList).Perm A'.tracked := by
  cases ev with
  | data sz b x rb ret =>
    simp only [SenderSpec.step, Option.bind_eq_some, Option.map_eq_some'] at hA
    obtain ⟨T₁, h₁, T₂, h₂, rfl⟩ := hA
    have e₁ : T₁.requests = A.tl.requests := by
      split at h₁
      · exact TlSpec.call_addBarrier_requests h₁
      · cases h₁; rfl
    simp only [SenderSpec.tracked, SendEv.write?]
    by_cases hx : x = idSyncer
    · simp only [hx, ne_eq, not_true_eq_false, false_and, if_false] at h₂ ⊢
      cases h₂
      simp [e₁]
    by_cases hw : ret = ((sz + dataPacketSize : Nat) : Int)
    · simp only [hx, hw, ne_eq, not_false_eq_true, decide_True, and_self, if_true,
        Bool.not_true, Bool.false_eq_true, and_false, if_false] at h₂ ⊢
      rw [TlSpec.call_add_requests h₂, e₁, Option.toList_some]
      simpa [List.append_assoc] using
        (List.perm_append_singleton x (A.acked ++ A.oos.map Prod.fst)).append_left A.tl.requests
    · simp only [hx, hw, ne_eq, not_false_eq_true, decide_False, and_false, if_false,
        Bool.not_false, and_self, if_true] at h₂ ⊢
      cases h₂
      simp [e₁]
  | issueBarrier => cases hA; simp [SendEv.write?, SenderSpec.tracked]
  | barrierAck nr size =>
    simp only [SenderSpec.step] at hA
    split at hA
    · rename_i ep m rest hs
      split_ifs at hA
      cases hA
      obtain ⟨hlog, -⟩ := splitEpoch_eq hs
      simp only [SenderSpec.tracked, TlSpec.requests, hlog, SendEv.write?, Option.toList,
        List.append_nil, List.filterMap_append, List.filterMap_cons, TlEntry.slot, TlSlot.req?]
      refine .append_right _ ?_
      rw [List.append_assoc]
      exact List.perm_append_comm.trans (by rw [List.append_assoc])
    · cases hA
  | writeAck x =>
    cases hA
    simp only [SenderSpec.tracked, TlSpec.requests, SendEv.write?, List.filterMap_reverse,
      blankEntry_requests, Option.toList, List.append_nil]
    refine .append_right _ ?_
    set R := A.tl.log.filterMap fun e => e.slot.req?
    split_ifs with hx
    · have hxR : x ∈ R := List.mem_filterMap.2 ⟨_, hx, rfl⟩
      have hR : (R.reverse.erase x).reverse.Perm (R.erase x) :=
        (List.reverse_perm _).trans ((List.reverse_perm R).erase x)
      calc List.Perm (R ++ A.acked) ((x :: R.erase x) ++ A.acked) :=
            (List.perm_cons_erase hxR).append_right _
        List.Perm _ (R.erase x ++ (A.acked ++ [x])) := by
            rw [List.cons_append, ← List.append_assoc]
            exact (List.perm_append_singleton _ _).symm
        List.Perm _ ((R.reverse.erase x).reverse ++ (A.acked ++ [x])) := hR.symm.append_right _
    · have hx' : x ∉ R.reverse := fun h => by
        obtain ⟨e, he, hq⟩ := List.mem_filterMap.1 (List.mem_reverse.1 h)
        cases e <;> simp_all [TlEntry.slot, TlSlot.req?]
      rw [List.erase_of_not_mem hx', List.reverse_reverse, List.append_nil]
  | connLost isSent => cases hA

theorem SenderSpec.run_tracked {n : Nat} :
    ∀ {evs : List SendEv} {A A' : SenderSpec},
    A.run n evs = some A' → (A.tracked ++ evs.filterMap SendEv.write?).Perm A'.tracked
  | [], _, _, hA => by cases hA; simp
  | ev :: evs, A, _, hA => by
    obtain ⟨A₁, h₁, hA'⟩ := Option.bind_eq_some.1 hA
    have hl : (ev :: evs).filterMap SendEv.write? =
        ev.write?.toList ++ evs.filterMap SendEv.write? := by
      cases h : ev.write? <;> simp [List.filterMap_cons, h]
    rw [hl, ← List.append_assoc]
    exact ((SenderSpec.step_tracked h₁).append_right _).trans (SenderSpec.run_tracked hA')

/-! ### Every write is kept -/

section Runs

variable {n : Nat} {a : Arch}

theorem Sender.Implements.init (cf : SendConf) (s : Sender n a) (hb : s.tl.tlBegin = s.tl.tlEnd)
    (hd : s.tl.barrierNrDone = s.tl.barrierNrIssue) : s.Implements cf (SenderSpec.ofEmpty s) :=
  ⟨Refines.empty s.tl hb hd, rfl, fun _ h => absurd h (List.not_mem_nil _)⟩

/-- From an empty transfer log with every barrier acknowledged, every connected run of the data
path the spec allows returns. `tl_release` reports no wrong barrier number or epoch size, the
ring and the bitmap implement the spec at the end, and the writes handed to `drbd_send_data` are,
each as often as it was handed over, those still in the log, those acknowledged and those marked
for resync. -/
theorem data_path_keeps_every_write (cf : SendConf) (s : Sender n a)
    (hb : s.tl.tlBegin = s.tl.tlEnd) (hd : s.tl.barrierNrDone = s.tl.barrierNrIssue)
    {evs : List SendEv} {A : SenderSpec} (hA : (SenderSpec.ofEmpty s).run n evs = some A) :
    ∃ s' rs, senderRun cf evs s = some (s', rs) ∧ (∀ r ∈ rs, r = ⟨false, false, false⟩) ∧
      s'.Implements cf A ∧ (evs.filterMap SendEv.write?).Perm A.tracked := by
  obtain ⟨s', rs, hs', hr, hi⟩ := (Sender.Implements.init cf s hb hd).run hA
  have ht := SenderSpec.run_tracked hA
  rw [show (SenderSpec.ofEmpty s).tracked = [] from rfl, List.nil_append] at ht
  exact ⟨s', rs, hs', hr, hi, ht⟩

end Runs

/-- A ring of eight slots, empty, and a bitmap of one word on a 64-bit machine. -/
def senderEmpty8 : Sender 8 Arch.lp64 :=
  ⟨⟨fun _ => .empty, 0, 0, 0, 0⟩, ⟨8, fun _ => 0, 0, 0, 0, 0⟩, false, 0⟩

/-- Protocol C, 4 KiB blocks, and request `x` at sector `8 x`. -/
def cf4k : SendConf := ⟨drbdProtC, 12, fun x => 8 * x⟩

/-- Write 5, a barrier and write 6, write 7 whose packet does not go out at all, and the
acknowledgement of the first epoch (barrier 0, one write). -/
def lostEpoch : List SendEv :=
  [.data 4096 5 5 0 4120, .issueBarrier, .data 4096 6 6 12 4120, .data 4096 7 7 0 0,
    .barrierAck 0 1]

/-- The spec at the end of `lostEpoch`: write 6 in the log after the acknowledged barrier, write
5 acknowledged, write 7 marked. -/
def lostEpochSpec : SenderSpec := ⟨⟨true, [.req 6], 1⟩, [5], [(7, 7)], false⟩

theorem lost_epoch_keeps_every_write : senderEmpty8.tl.tlBegin = senderEmpty8.tl.tlEnd ∧
    senderEmpty8.tl.barrierNrDone = senderEmpty8.tl.barrierNrIssue ∧
    (SenderSpec.ofEmpty senderEmpty8).run 8 lostEpoch = some lostEpochSpec ∧
    ∃ s' rs, senderRun cf4k lostEpoch senderEmpty8 = some (s', rs) ∧
      (∀ r ∈ rs, r = ⟨false, false, false⟩) ∧ s'.Implements cf4k lostEpochSpec ∧
      (lostEpoch.filterMap SendEv.write?).Perm lostEpochSpec.tracked := by
  refine ⟨?h₁, ?h₂, ?h₃, data_path_keeps_every_write cf4k senderEmpty8 ?h₁ ?h₂ ?h₃⟩ <;> rfl

end Drbd
