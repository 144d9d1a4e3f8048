import Mathlib.Data.Nat.Defs
import Mathlib.Order.Basic
import Mathlib.Tactic.Set
import Mathlib.Tactic.SplitIfs
import Mathlib.Logic.Function.Basic
import Mathlib.Data.Nat.Find

/-! The transfer log of `drbd/drbd_main.c` (drbd 0.6): the ring `transfer_log[0..tl_size)` of
request pointers and `TL_BARRIER` / `TL_EMPTY` markers between `tl_begin` and `tl_end`, and the
barrier counters `barrier_nr_issue` and `barrier_nr_done`. `tl_add` and `tl_add_barrier` append,
`tl_dependence` blanks the newest entry of a request, `tl_release` drops the oldest epoch once its
barrier is acknowledged, and `tl_clear` walks the log when the connection is lost.

The ring refines a FIFO of requests and numbered barriers (`TlSpec`) as long as the log does
not start with a barrier: `tl_release` counts an epoch from the barrier it finds at `tl_begin`,
which it takes for the barrier acknowledged last. -/
namespace Drbd

/-- A slot of `transfer_log`: a request pointer, `TL_BARRIER` or `TL_EMPTY`. -/
inductive TlSlot | req (id : Nat) | barrier | empty
  deriving DecidableEq, Repr

/-- The request a slot points to. -/
def TlSlot.req? : TlSlot → Option Nat
  | .req x => some x
  | _ => none

/-- The transfer-log fields of `struct Drbd_Conf` for `conf.tl_size = n`. The slots outside the
window keep whatever they held. -/
structure TransferLog (n : Nat) where
  slots : Fin n → TlSlot
  tlBegin : Fin n
  tlEnd : Fin n
  barrierNrIssue : Nat
  barrierNrDone : Nat

section Ring

variable {n : Nat}

/-- `p++`, wrapping at `transfer_log + tl_size`. -/
def tlNext (p : Fin n) : Fin n :=
  if h : p.val + 1 = n then ⟨0, p.pos⟩ else ⟨p.val + 1, by have := p.isLt; omega⟩

/-- `p--` in `tl_dependence`, which first moves `p` from `transfer_log` to
`transfer_log + tl_size`. -/
def tlPrev (p : Fin n) : Fin n :=
  if h : p.val = 0 then ⟨n - 1, by have := p.pos; omega⟩ else ⟨p.val - 1, by have := p.isLt; omega⟩

/-- Store `s` at `tl_end` and advance `tl_end`, as `tl_add` and `tl_add_barrier` do; `true`
when `tl_end` catches up with `tl_begin` ("transferlog too small"). -/
def tlPut (t : TransferLog n) (s : TlSlot) : TransferLog n × Bool :=
  ({ t with slots := Function.update t.slots t.tlEnd s, tlEnd := tlNext t.tlEnd },
    decide (tlNext t.tlEnd = t.tlBegin))

@[simp] theorem tlPut_tlBegin (t : TransferLog n) (s : TlSlot) :
    (tlPut t s).1.tlBegin = t.tlBegin := rfl

@[simp] theorem tlPut_barrierNrIssue (t : TransferLog n) (s : TlSlot) :
    (tlPut t s).1.barrierNrIssue = t.barrierNrIssue := rfl

@[simp] theorem tlPut_barrierNrDone (t : TransferLog n) (s : TlSlot) :
    (tlPut t s).1.barrierNrDone = t.barrierNrDone := rfl

/-- `tl_add`. -/
def tlAdd (t : TransferLog n) (x : Nat) : TransferLog n × Bool := tlPut t (.req x)

/-- `tl_add_barrier`: returns `barrier_nr_issue++`. -/
def tlAddBarrier (t : TransferLog n) : TransferLog n × Nat × Bool :=
  ({ (tlPut t .barrier).1 with barrierNrIssue := t.barrierNrIssue + 1 }, t.barrierNrIssue,
    (tlPut t .barrier).2)

/-- What `tl_release` prints: `tl_begin` ran into `tl_end` ("tl messed up"), the barrier number
is not `barrier_nr_done` ("invalid barrier number"), the epoch size is not `set_size`. -/
structure TlReport where
  messedUp : Bool
  badNr : Bool
  badSize : Bool
  deriving DecidableEq, Repr

/-- The `do … while (*tl_begin != TL_BARRIER)` loop of `tl_release`, counting in `es`. In
`tl_size` turns it finds a barrier if the ring holds one; `none` is the endless loop of a ring
without one. -/
def releaseLoop (slots : Fin n → TlSlot) (tlEnd : Fin n) :
    Nat → Fin n → Int → Bool → Option (Fin n × Int × Bool)
  | 0, _, _, _ => none
  | fuel + 1, b, es, mu =>
    let b := tlNext b
    let mu := mu || decide (b = tlEnd)
    if slots b = .barrier then some (b, es + 1, mu) else releaseLoop slots tlEnd fuel b (es + 1) mu

/-- `tl_release(barrier_nr, set_size)`. -/
def tlRelease (t : TransferLog n) (barrierNr setSize : Nat) :
    Option (TransferLog n × TlReport) :=
  match releaseLoop t.slots t.tlEnd n t.tlBegin
      (if t.slots t.tlBegin = .barrier then -1 else 0) false with
  | some (b, es, mu) =>
    some ({ t with tlBegin := b, barrierNrDone := t.barrierNrDone + 1 },
      ⟨mu, decide (t.barrierNrDone ≠ barrierNr), decide (es ≠ setSize)⟩)
  | none => none

/-- The backward walk of `tl_dependence` from `p`. The test after the wrap compares
`transfer_log + tl_size` with `tl_begin` and never holds, so it is left out. -/
def dependenceLoop (tlBegin : Fin n) (x : Nat) (slots : Fin n → TlSlot) :
    Nat → Fin n → Bool → (Fin n → TlSlot) × Bool
  | 0, _, r => (slots, r)
  | fuel + 1, p, r =>
    if p = tlBegin then (slots, false)
    else
      let p := tlPrev p
      let r := r && decide (slots p ≠ .barrier)
      if slots p = .req x then (Function.update slots p .empty, r)
      else dependenceLoop tlBegin x slots fuel p r

/-- `tl_dependence(item)`: blank the newest entry of the request; `true` when it lies in the
current epoch. -/
def tlDependence (t : TransferLog n) (x : Nat) : TransferLog n × Bool :=
  ({ t with slots := (dependenceLoop t.tlBegin x t.slots n t.tlEnd true).1 },
    (dependenceLoop t.tlBegin x t.slots n t.tlEnd true).2)

/-- The walk of `tl_clear` from `p` to `tl_end`: the requests whose sectors it marks out of sync
and which, under protocols B and C, it ends if they were not sent. -/
def clearLoop (slots : Fin n → TlSlot) (tlEnd : Fin n) : Nat → Fin n → List Nat
  | 0, _ => []
  | fuel + 1, p =>
    if p = tlEnd then []
    else (slots p).req?.toList ++ clearLoop slots tlEnd fuel (tlNext p)

/-- Modelled from the spec: `tl_init` is not under src/. It empties the log, putting `tl_begin`
and `tl_end` back at the start of `transfer_log`. -/
def tlInit (t : TransferLog n) : TransferLog n :=
  { t with tlBegin := ⟨0, t.tlBegin.pos⟩, tlEnd := ⟨0, t.tlBegin.pos⟩ }

/-- `tl_clear`: the emptied log and the requests it visited, in order. -/
def tlClear (t : TransferLog n) : TransferLog n × List Nat :=
  (tlInit t, clearLoop t.slots t.tlEnd n t.tlBegin)

end Ring

/-- The calls on the transfer log. -/
inductive TlOp | add (id : Nat) | addBarrier | dependence (id : Nat) | release (nr size : Nat)
  deriving DecidableEq, Repr

/-- What a call returns or prints. -/
inductive TlOut | added (tooSmall : Bool) | barrier (nr : Nat) (tooSmall : Bool)
  | dependence (inEpoch : Bool) | released (report : TlReport)
  deriving DecidableEq, Repr

def TransferLog.apply {n : Nat} (t : TransferLog n) : TlOp → Option (TransferLog n × TlOut)
  | .add x => some ((tlAdd t x).1, .added (tlAdd t x).2)
  | .addBarrier => some ((tlAddBarrier t).1, .barrier (tlAddBarrier t).2.1 (tlAddBarrier t).2.2)
  | .dependence x => some ((tlDependence t x).1, .dependence (tlDependence t x).2)
  | .release nr size => (tlRelease t nr size).map fun y => (y.1, .released y.2)

def tlRun {n : Nat} (t : TransferLog n) : List TlOp → Option (TransferLog n × List TlOut)
  | [] => some (t, [])
  | op :: ops =>
    match t.apply op with
    | some (t', o) => (tlRun t' ops).map fun y => (y.1, o :: y.2)
    | none => none

/-! ### The FIFO the ring implements -/

/-- An entry of the log: a request, a blanked request, or a barrier with its number. -/
inductive TlEntry | req (id : Nat) | blank | barrier (nr : Nat)
  deriving DecidableEq, Repr

/-- The slot the ring holds for an entry. -/
def TlEntry.slot : TlEntry → TlSlot
  | .req x => .req x
  | .blank => .empty
  | .barrier _ => .barrier

def TlEntry.nr? : TlEntry → Option Nat
  | .barrier m => some m
  | _ => none

/-- The transfer log as a FIFO: whether the barrier acknowledged last is kept in front, the
entries after it, oldest first, and the next barrier number. -/
structure TlSpec where
  front : Bool
  log : List TlEntry
  issue : Nat
  deriving DecidableEq, Repr

/-- The slots of the window `[tl_begin, tl_end)` that hold `A`. -/
def TlSpec.window (A : TlSpec) : List TlSlot :=
  (if A.front then [.barrier] else []) ++ A.log.map TlEntry.slot

/-- The requests of the log that are not blanked, oldest first. -/
def TlSpec.requests (A : TlSpec) : List Nat := A.log.filterMap fun e => e.slot.req?

/-- Blank the newest item of a list given newest first; `true` when no barrier is newer. -/
def blankNewest {α : Type} (isItem isBarrier : α → Bool) (blank : α) : List α → List α × Bool
  | [] => ([], false)
  | a :: as =>
    if isItem a then (blank :: as, true)
    else (a :: (blankNewest isItem isBarrier blank as).1,
      (blankNewest isItem isBarrier blank as).2 && !isBarrier a)

/-- The entries `tl_dependence` looks for and passes over. -/
def blankEntry (x : Nat) : List TlEntry → List TlEntry × Bool :=
  blankNewest (fun e => decide (e = .req x)) (fun e => e.nr?.isSome) .blank

/-- The oldest epoch: the entries before the oldest barrier, its number, and the rest. -/
def splitEpoch : List TlEntry → Option (List TlEntry × Nat × List TlEntry)
  | [] => none
  | .barrier m :: rest => some ([], m, rest)
  | e :: rest => (splitEpoch rest).map fun y => (e :: y.1, y.2)

/-- The calls the FIFO allows and what they return. Appending keeps the window shorter than
the ring, and a barrier is not appended to an empty log; `tl_dependence` blanks the newest entry
of the request; `tl_release` names the oldest barrier and the size of its epoch, drops the epoch
and keeps the barrier in front. -/
def TlSpec.apply (n : Nat) (A : TlSpec) : TlOp → Option (TlSpec × TlOut)
  | .add x =>
    if A.window.length + 1 < n then some ({ A with log := A.log ++ [.req x] }, .added false)
    else none
  | .addBarrier =>
    if A.window.length + 1 < n ∧ A.window ≠ [] then
      some ({ A with log := A.log ++ [.barrier A.issue], issue := A.issue + 1 },
        .barrier A.issue false)
    else none
  | .dependence x =>
    some ({ A with log := (blankEntry x A.log.reverse).1.reverse },
      .dependence (blankEntry x A.log.reverse).2)
  | .release nr size =>
    match splitEpoch A.log with
    | some (ep, m, rest) =>
      if nr = m ∧ size = ep.length then
        some ({ A with front := true, log := rest }, .released ⟨false, false, false⟩)
      else none
    | none => none

def TlSpec.run (n : Nat) (A : TlSpec) : List TlOp → Option (TlSpec × List TlOut)
  | [] => some (A, [])
  | op :: ops =>
    match A.apply n op with
    | some (A', o) => (TlSpec.run n A' ops).map fun y => (y.1, o :: y.2)
    | none => none

/-! ### The ring holds the window -/

section Window

variable {n : Nat}

/-- The slot `k` places after `p`. -/
def adv (p : Fin n) (k : Nat) : Fin n := ⟨(p.val + k) % n, Nat.mod_lt _ p.pos⟩

theorem adv_val (p : Fin n) {k : Nat} (hk : k ≤ n) :
    (adv p k).val = if p.val + k < n then p.val + k else p.val + k - n := by
  have := p.isLt
  simp only [adv]
  split_ifs with h
  · exact Nat.mod_eq_of_lt h
  · rw [Nat.mod_eq_sub_mod (by omega), Nat.mod_eq_of_lt (by omega)]

theorem adv_zero (p : Fin n) : adv p 0 = p :=
  Fin.ext (by rw [adv_val p (Nat.zero_le n)]; have := p.isLt; split_ifs <;> omega)

theorem adv_inj (p : Fin n) {i j : Nat} (hi : i < n) (hj : j < n) (h : adv p i = adv p j) :
    i = j := by
  have h' := congrArg Fin.val h
  rw [adv_val p hi.le, adv_val p hj.le] at h'
  split_ifs at h' <;> omega

theorem adv_succ_ne (p : Fin n) {k : Nat} (hk : k + 1 < n) : adv p (k + 1) ≠ p := fun h =>
  absurd (adv_inj p hk p.pos (h.trans (adv_zero p).symm)) (Nat.succ_ne_zero k)

theorem tlNext_val (q : Fin n) : (tlNext q).val = if q.val + 1 = n then 0 else q.val + 1 := by
  unfold tlNext; split <;> rfl

theorem tlPrev_val (q : Fin n) : (tlPrev q).val = if q.val = 0 then n - 1 else q.val - 1 := by
  unfold tlPrev; split <;> rfl

theorem tlNext_adv (p : Fin n) {k : Nat} (hk : k < n) : tlNext (adv p k) = adv p (k + 1) := by
  have := p.isLt
  apply Fin.ext
  rw [tlNext_val, adv_val p hk.le, adv_val p (show k + 1 ≤ n by omega)]
  split_ifs <;> omega

theorem tlPrev_adv (p : Fin n) {k : Nat} (hk : k + 1 < n) : tlPrev (adv p (k + 1)) = adv p k := by
  have := p.isLt
  apply Fin.ext
  rw [tlPrev_val, adv_val p (show k + 1 ≤ n by omega), adv_val p (show k ≤ n by omega)]
  split_ifs <;> omega

theorem adv_adv (p : Fin n) {i j : Nat} (h : i + j ≤ n) : adv (adv p i) j = adv p (i + j) := by
  have := p.isLt
  apply Fin.ext
  rw [adv_val _ (by omega : j ≤ n), adv_val p (by omega : i ≤ n), adv_val p h]
  split_ifs <;> omega

/-- `slots` holds `W` from `b` on. -/
def SlotsHold (slots : Fin n → TlSlot) (b : Fin n) (W : List TlSlot) : Prop :=
  ∀ i (h : i < W.length), slots (adv b i) = W[i]

/-- The window `[tl_begin, tl_end)` of `t` holds `W`, oldest first, and is shorter than the
ring. -/
structure TransferLog.Holds (t : TransferLog n) (W : List TlSlot) : Prop where
  lt : W.length < n
  tlEnd : t.tlEnd = adv t.tlBegin W.length
  slots : SlotsHold t.slots t.tlBegin W

theorem SlotsHold.update {slots : Fin n → TlSlot} {b : Fin n} {W : List TlSlot}
    (h : SlotsHold slots b W) (hW : W.length ≤ n) {k : Nat} (hk : k < W.length) (a : TlSlot) :
    SlotsHold (Function.update slots (adv b k) a) b (W.set k a) := by
  intro i hi
  rw [List.length_set] at hi
  rw [List.getElem_set]
  by_cases hik : k = i
  · subst hik; simp
  · rw [Function.update_noteq (fun h' => hik (adv_inj b (by omega) (by omega) h').symm),
      if_neg hik]
    exact h i hi

theorem TransferLog.Holds.put {t : TransferLog n} {W : List TlSlot} (h : t.Holds W)
    (hl : W.length + 1 < n) (s : TlSlot) :
    (tlPut t s).1.Holds (W ++ [s]) ∧ (tlPut t s).2 = false := by
  refine ⟨⟨by simpa using hl, ?_, fun i hi => ?_⟩, ?_⟩
  · simp only [tlPut, h.tlEnd, List.length_append, List.length_singleton]
    exact tlNext_adv _ (by omega)
  · simp only [List.length_append, List.length_singleton] at hi
    simp only [tlPut, h.tlEnd]
    by_cases hiL : i = W.length
    · subst hiL; simp
    · rw [Function.update_noteq (fun h' => hiL (adv_inj _ (by omega) (by omega) h')),
        List.getElem_append_left (by omega)]
      exact h.slots i (by omega)
  · simp only [tlPut, h.tlEnd, decide_eq_false_iff_not]
    rw [tlNext_adv _ (by omega)]
    exact adv_succ_ne _ (by omega)

theorem TransferLog.Holds.drop {t t' : TransferLog n} {W : List TlSlot} (h : t.Holds W) {k : Nat}
    (hk : k ≤ W.length) (hs : t'.slots = t.slots) (hb : t'.tlBegin = adv t.tlBegin k)
    (he : t'.tlEnd = t.tlEnd) : t'.Holds (W.drop k) := by
  have hn := h.lt
  refine ⟨by simp; omega, ?_, fun i hi => ?_⟩
  · rw [he, hb, h.tlEnd, adv_adv _ (by simp; omega), List.length_drop]
    congr 1; omega
  · simp only [List.length_drop] at hi
    rw [hs, hb, adv_adv _ (by omega), List.getElem_drop]
    exact h.slots _ _

theorem releaseLoop_eq {t : TransferLog n} {W : List TlSlot} (h : t.Holds W) {j : Nat}
    (hj : j < W.length) (hb : W[j]? = some .barrier) :
    ∀ (fuel s : Nat) (es : Int) (mu : Bool), s < j → j - s ≤ fuel →
      (∀ i, s < i → i < j → W[i]? ≠ some .barrier) →
      releaseLoop t.slots t.tlEnd fuel (adv t.tlBegin s) es mu =
        some (adv t.tlBegin j, es + (j - s : Nat), mu)
  | 0, s, _, _, hs, hf, _ => by omega
  | fuel + 1, s, es, mu, hs, hf, hw => by
    have hn := h.lt
    have hnext : tlNext (adv t.tlBegin s) = adv t.tlBegin (s + 1) := tlNext_adv _ (by omega)
    have hend : decide (adv t.tlBegin (s + 1) = t.tlEnd) = false := by
      rw [h.tlEnd, decide_eq_false_iff_not]
      exact fun h' => absurd (adv_inj _ (by omega) (by omega) h') (by omega)
    have hslot : t.slots (adv t.tlBegin (s + 1)) = W[s + 1] := h.slots _ (by omega)
    simp only [releaseLoop, hnext, hend, Bool.or_false, hslot]
    by_cases hsj : s + 1 = j
    · subst hsj
      rw [List.getElem?_eq_getElem hj, Option.some.injEq] at hb
      simp [hb]
    · have hne : W[s + 1] ≠ .barrier := fun h' =>
        hw (s + 1) (by omega) (by omega) (by rw [List.getElem?_eq_getElem (by omega), h'])
      rw [if_neg hne, releaseLoop_eq h hj hb fuel (s + 1) (es + 1) mu (by omega) (by omega)
        fun i h₁ h₂ => hw i (by omega) h₂]
      congr 3
      omega

theorem tlRelease_window {t : TransferLog n} {P R : List TlSlot}
    (h : t.Holds (P ++ .barrier :: R)) (hpos : 0 < P.length)
    (hPb : ∀ i, 0 < i → i < P.length → P[i]? ≠ some .barrier) (nr size : Nat) :
    tlRelease t nr size = some
      ({ t with tlBegin := adv t.tlBegin P.length, barrierNrDone := t.barrierNrDone + 1 },
        ⟨false, decide (t.barrierNrDone ≠ nr),
          decide ((if P[0]? = some .barrier then (-1 : Int) else 0) + P.length ≠ size)⟩) := by
  have hL := h.lt
  rw [List.length_append] at hL
  have h0 : t.slots t.tlBegin = P[0] := by
    rw [← adv_zero t.tlBegin, h.slots 0 (by rw [List.length_append]; omega),
      List.getElem_append_left hpos]
  have hloop := releaseLoop_eq h (j := P.length) (by rw [List.length_append]; simp)
    (by rw [List.getElem?_append_right le_rfl, Nat.sub_self, List.getElem?_cons_zero]) n 0
    (if t.slots t.tlBegin = .barrier then -1 else 0) false hpos (by omega)
    (fun i h₁ h₂ => by rw [List.getElem?_append_left h₂]; exact hPb i h₁ h₂)
  rw [adv_zero, Nat.sub_zero] at hloop
  simp only [tlRelease, hloop]
  simp [h0, List.getElem?_eq_getElem hpos]

/-- With no barrier anywhere in the ring the loop of `tl_release` never ends: no fuel is
enough. -/
theorem releaseLoop_of_no_barrier {slots : Fin n → TlSlot} (h : ∀ p, slots p ≠ .barrier)
    (e : Fin n) : ∀ fuel b es mu, releaseLoop slots e fuel b es mu = none
  | 0, _, _, _ => rfl
  | fuel + 1, b, es, mu => by
    simp only [releaseLoop, if_neg (h _)]; exact releaseLoop_of_no_barrier h e fuel _ _ _

theorem releaseLoop_isSome (slots : Fin n → TlSlot) (e : Fin n) :
    ∀ fuel b es mu k, fuel ≤ n → k < fuel → slots (adv b (k + 1)) = .barrier →
      (releaseLoop slots e fuel b es mu).isSome
  | 0, _, _, _, _, _, hk, _ => absurd hk (Nat.not_lt_zero _)
  | fuel + 1, b, es, mu, k, hf, hk, hb => by
    have h1 : tlNext b = adv b 1 := by rw [← adv_zero b, tlNext_adv _ b.pos, adv_zero]
    simp only [releaseLoop]
    split_ifs with hs
    · rfl
    · cases k with
      | zero => exact absurd hb (h1 ▸ hs)
      | succ k =>
        refine releaseLoop_isSome slots e fuel _ _ _ k (by omega) (by omega) ?_
        rwa [h1, adv_adv _ (by omega), Nat.add_comm 1]

/-- `tl_release` returns exactly when the ring holds a barrier, live or stale. -/
theorem tlRelease_eq_none_iff (t : TransferLog n) (nr size : Nat) :
    tlRelease t nr size = none ↔ ∀ p, t.slots p ≠ .barrier := by
  refine ⟨fun hn p hp => ?_, fun h => by simp only [tlRelease, releaseLoop_of_no_barrier h]⟩
  -- the barrier at `p` lies `k + 1` slots after `tl_begin`, within one turn
  obtain ⟨k, hk, hkp⟩ : ∃ k, k < n ∧ adv t.tlBegin (k + 1) = p := by
    have := p.isLt
    have := t.tlBegin.isLt
    refine ⟨if t.tlBegin.val < p.val then p.val - t.tlBegin.val - 1
      else p.val + n - t.tlBegin.val - 1, by split_ifs <;> omega, Fin.ext ?_⟩
    rw [adv_val _ (by split_ifs <;> omega)]
    split_ifs <;> omega
  have hs := releaseLoop_isSome t.slots t.tlEnd n t.tlBegin
    (if t.slots t.tlBegin = .barrier then -1 else 0) false k (Nat.le_refl n) hk (hkp ▸ hp)
  unfold tlRelease at hn
  rcases hr : releaseLoop t.slots t.tlEnd n t.tlBegin _ false with _ | ⟨b, es, mu⟩
  · rw [hr] at hs; cases hs
  · rw [hr] at hn; cases hn

/-- The items and barriers `tl_dependence` looks for. -/
def blankSlot (x : Nat) : List TlSlot → List TlSlot × Bool :=
  blankNewest (fun s => decide (s = .req x)) (fun s => decide (s = .barrier)) .empty

theorem blankSlot_cons (x : Nat) (a : TlSlot) (as : List TlSlot) :
    blankSlot x (a :: as) = if a = .req x then (.empty :: as, true)
      else (a :: (blankSlot x as).1, (blankSlot x as).2 && !decide (a = .barrier)) := by
  simp only [blankSlot, blankNewest, decide_eq_true_eq]

theorem dependenceLoop_eq {t : TransferLog n} {W : List TlSlot} (h : t.Holds W) (x : Nat) :
    ∀ (fuel k : Nat) (r : Bool), k ≤ W.length → k < fuel →
      (dependenceLoop t.tlBegin x t.slots fuel (adv t.tlBegin k) r).2 =
          (r && (blankSlot x (W.take k).reverse).2) ∧
        SlotsHold (dependenceLoop t.tlBegin x t.slots fuel (adv t.tlBegin k) r).1 t.tlBegin
          ((blankSlot x (W.take k).reverse).1.reverse ++ W.drop k)
  | 0, _, _, _, hf => absurd hf (Nat.not_lt_zero _)
  | fuel + 1, 0, r, _, _ => by
    simp only [dependenceLoop, adv_zero, if_true]
    exact ⟨by simp [blankSlot, blankNewest], by simpa using h.slots⟩
  | fuel + 1, k + 1, r, hk, hf => by
    have hn := h.lt
    have hb := adv_succ_ne t.tlBegin (show k + 1 < n by omega)
    have hslot : t.slots (adv t.tlBegin k) = W[k] := h.slots _ (by omega)
    have htake : (W.take (k + 1)).reverse = W[k] :: (W.take k).reverse := by
      rw [← List.take_concat_get W k (by omega)]; simp
    simp only [dependenceLoop, if_neg hb, tlPrev_adv _ (show k + 1 < n by omega), hslot, htake,
      blankSlot_cons]
    by_cases hx : W[k] = .req x
    · simp only [hx, if_true, decide_True, ne_eq, reduceCtorEq, not_false_eq_true,
        Bool.and_true, List.reverse_cons, List.append_assoc, List.singleton_append, true_and,
        List.reverse_reverse]
      have hs := h.slots.update hn.le (show k < W.length by omega) .empty
      rwa [List.set_eq_take_append_cons_drop, if_pos (show k < W.length by omega)] at hs
    · obtain ⟨h₁, h₂⟩ := dependenceLoop_eq h x fuel k (r && decide (W[k] ≠ .barrier)) (by omega)
        (by omega)
      simp only [hx, decide_False, if_false]
      refine ⟨?_, ?_⟩
      · rw [h₁, decide_not]
        cases (blankSlot x (List.take k W).reverse).2 <;> simp [Bool.and_comm]
      · rw [List.reverse_cons, List.append_assoc, List.singleton_append,
          ← List.drop_eq_getElem_cons (show k < W.length by omega)]
        exact h₂

theorem clearLoop_eq {t : TransferLog n} {W : List TlSlot} (h : t.Holds W) :
    ∀ (fuel k : Nat), k ≤ W.length → W.length - k < fuel →
      clearLoop t.slots t.tlEnd fuel (adv t.tlBegin k) = (W.drop k).filterMap TlSlot.req?
  | 0, _, _, hf => absurd hf (Nat.not_lt_zero _)
  | fuel + 1, k, hk, hf => by
    have hn := h.lt
    by_cases hkL : k = W.length
    · subst hkL; simp [clearLoop, h.tlEnd]
    · have hne : adv t.tlBegin k ≠ t.tlEnd := by
        rw [h.tlEnd]; exact fun h' => hkL (adv_inj _ (by omega) (by omega) h')
      rw [clearLoop, if_neg hne, h.slots k (by omega), tlNext_adv _ (by omega),
        clearLoop_eq h fuel (k + 1) (by omega) (by omega),
        List.drop_eq_getElem_cons (show k < W.length by omega)]
      cases hr : W[k].req? <;>
        simp only [List.filterMap_cons, hr, Option.toList, List.nil_append, List.singleton_append]

/-- An append to a ring holding `tl_size - 1` entries reports the log too small and leaves
`tl_end` on `tl_begin`: the log reads as empty, and `tl_clear` visits none of its requests. -/
theorem TransferLog.Holds.put_full {t : TransferLog n} {W : List TlSlot} (h : t.Holds W)
    (hl : W.length + 1 = n) (s : TlSlot) :
    (tlPut t s).2 = true ∧ (tlPut t s).1.Holds [] ∧ (tlClear (tlPut t s).1).2 = [] := by
  have hb : (tlPut t s).1.tlEnd = (tlPut t s).1.tlBegin := by
    have := t.tlBegin.isLt
    apply Fin.ext
    simp only [tlPut, h.tlEnd]
    rw [tlNext_adv _ (by omega), adv_val _ (by omega)]
    split_ifs <;> omega
  have he : (tlPut t s).1.Holds [] :=
    ⟨t.tlBegin.pos, by rw [hb, List.length_nil, adv_zero], fun i hi => absurd hi (Nat.not_lt_zero _)⟩
  refine ⟨decide_eq_true hb, he, ?_⟩
  have hc := clearLoop_eq he n 0 (Nat.zero_le _) t.tlBegin.pos
  rwa [adv_zero] at hc

/-! #### `tl_dependence` on any ring -/

/-- The number of slots in the window `[tl_begin, tl_end)`. -/
def TransferLog.liveLen (t : TransferLog n) : Nat := (t.tlEnd.val + n - t.tlBegin.val) % n

/-- The slots of the window `[tl_begin, tl_end)`, oldest first. -/
def TransferLog.live (t : TransferLog n) : List TlSlot :=
  (List.range t.liveLen).map fun i => t.slots (adv t.tlBegin i)

theorem TransferLog.live_getElem? (t : TransferLog n) (i : Nat) :
    t.live[i]? = if i < t.liveLen then some (t.slots (adv t.tlBegin i)) else none := by
  unfold TransferLog.live
  split_ifs with h <;> simp [h, Nat.le_of_not_lt]

theorem TransferLog.holds_live (t : TransferLog n) : t.Holds t.live := by
  have hb := t.tlBegin.isLt
  have he := t.tlEnd.isLt
  have hL : t.liveLen = if t.tlBegin.val ≤ t.tlEnd.val then t.tlEnd.val - t.tlBegin.val
      else t.tlEnd.val + n - t.tlBegin.val := by
    unfold TransferLog.liveLen
    split_ifs
    · rw [Nat.mod_eq_sub_mod (by omega), Nat.mod_eq_of_lt (by omega)]; omega
    · exact Nat.mod_eq_of_lt (by omega)
  have hlen : t.live.length = t.liveLen := by simp [TransferLog.live]
  refine ⟨by rw [hlen, hL]; split_ifs <;> omega, Fin.ext ?_, fun i hi => ?_⟩
  · rw [hlen, adv_val _ (by rw [hL]; split_ifs <;> omega), hL]
    split_ifs <;> omega
  · simp [TransferLog.live]

theorem dependenceLoop_fuel {b : Fin n} {x : Nat} {slots : Fin n → TlSlot} :
    ∀ (fuel fuel' k : Nat) (r : Bool), k < fuel → k < fuel' → k < n →
      dependenceLoop b x slots fuel (adv b k) r = dependenceLoop b x slots fuel' (adv b k) r
  | 0, _, _, _, hf, _, _ | _, 0, _, _, _, hf, _ => absurd hf (Nat.not_lt_zero _)
  | fuel + 1, fuel' + 1, 0, r, _, _, _ => by simp only [dependenceLoop, adv_zero, if_true]
  | fuel + 1, fuel' + 1, k + 1, r, hf, hf', hk => by
    simp only [dependenceLoop, if_neg (adv_succ_ne b hk), tlPrev_adv b hk]
    split
    · rfl
    · exact dependenceLoop_fuel fuel fuel' k _ (by omega) (by omega) (by omega)

theorem dependenceLoop_absent {b : Fin n} {x : Nat} {slots : Fin n → TlSlot} :
    ∀ (fuel k : Nat) (r : Bool), k < fuel → k < n → (∀ j < k, slots (adv b j) ≠ .req x) →
      dependenceLoop b x slots fuel (adv b k) r = (slots, false)
  | 0, _, _, hf, _, _ => absurd hf (Nat.not_lt_zero _)
  | fuel + 1, 0, r, _, _, _ => by simp only [dependenceLoop, adv_zero, if_true]
  | fuel + 1, k + 1, r, hf, hk, hx => by
    simp only [dependenceLoop, if_neg (adv_succ_ne b hk), tlPrev_adv b hk, if_neg (hx k (by omega))]
    exact dependenceLoop_absent fuel k _ (by omega) (by omega) fun j hj => hx j (by omega)

theorem dependenceLoop_found {b : Fin n} {x : Nat} {slots : Fin n → TlSlot} {i : Nat}
    (hi : slots (adv b i) = .req x) :
    ∀ (fuel k : Nat) (r : Bool), k < fuel → k < n → i < k →
      (∀ j, i < j → j < k → slots (adv b j) ≠ .req x) →
      (dependenceLoop b x slots fuel (adv b k) r).1 = Function.update slots (adv b i) .empty ∧
        ((dependenceLoop b x slots fuel (adv b k) r).2 = true ↔
          r = true ∧ ∀ j, i < j → j < k → slots (adv b j) ≠ .barrier)
  | 0, _, _, hf, _, _, _ => absurd hf (Nat.not_lt_zero _)
  | fuel + 1, 0, _, _, _, hik, _ => absurd hik (Nat.not_lt_zero _)
  | fuel + 1, k + 1, r, hf, hk, hik, hx => by
    simp only [dependenceLoop, if_neg (adv_succ_ne b hk), tlPrev_adv b hk]
    rcases Nat.lt_succ_iff_lt_or_eq.1 hik with hik | rfl
    · have hxk := hx k hik (Nat.lt_succ_self k)
      obtain ⟨h₁, h₂⟩ := dependenceLoop_found hi fuel k (r && decide (slots (adv b k) ≠ .barrier))
        (by omega) (by omega) hik fun j h h' => hx j h (by omega)
      simp only [if_neg hxk, h₁, h₂, Bool.and_eq_true, decide_eq_true_eq, true_and]
      constructor
      · rintro ⟨⟨hr, hk'⟩, hj⟩
        exact ⟨hr, fun j h h' => (Nat.lt_succ_iff_lt_or_eq.1 h').elim (hj j h) (· ▸ hk')⟩
      · rintro ⟨hr, hj⟩
        exact ⟨⟨hr, hj k hik (Nat.lt_succ_self k)⟩, fun j h h' => hj j h (by omega)⟩
    · simp only [hi, if_true, true_and, Bool.and_eq_true, decide_eq_true_eq, ne_eq,
        reduceCtorEq, not_false_eq_true, and_true]
      exact ⟨fun hr => ⟨hr, fun j h h' => absurd h' (by omega)⟩, And.left⟩

theorem TransferLog.live_getElem?_eq_some {t : TransferLog n} {i : Nat} {s : TlSlot} :
    t.live[i]? = some s ↔ i < t.liveLen ∧ t.slots (adv t.tlBegin i) = s := by
  rw [TransferLog.live_getElem?]; split_ifs with h <;> simp [h]

theorem TransferLog.tlEnd_eq_adv (t : TransferLog n) : t.tlEnd = adv t.tlBegin t.liveLen := by
  have h := t.holds_live.tlEnd
  rwa [show t.live.length = t.liveLen by simp [TransferLog.live]] at h

theorem TransferLog.liveLen_lt (t : TransferLog n) : t.liveLen < n :=
  Nat.mod_lt _ t.tlBegin.pos

theorem TransferLog.exists_newest (t : TransferLog n) {x i₀ : Nat} (hi₀ : i₀ < t.liveLen)
    (hx : t.slots (adv t.tlBegin i₀) = .req x) :
    ∃ i < t.liveLen, t.slots (adv t.tlBegin i) = .req x ∧
      ∀ j, i < j → j < t.liveLen → t.slots (adv t.tlBegin j) ≠ .req x := by
  let P := fun i => i < t.liveLen ∧ t.slots (adv t.tlBegin i) = .req x
  have hi : P (Nat.findGreatest P t.liveLen) := Nat.findGreatest_spec (P := P) hi₀.le ⟨hi₀, hx⟩
  exact ⟨_, hi.1, hi.2, fun j h hj hj' => Nat.findGreatest_is_greatest h hj.le ⟨hj, hj'⟩⟩

theorem tlDependence_absent {t : TransferLog n} {x : Nat}
    (h : ∀ j < t.liveLen, t.slots (adv t.tlBegin j) ≠ .req x) : tlDependence t x = (t, false) := by
  have h' := dependenceLoop_absent n _ true t.liveLen_lt t.liveLen_lt h
  rw [← t.tlEnd_eq_adv] at h'
  simp only [tlDependence, h']

theorem tlDependence_found {t : TransferLog n} {x i : Nat} (hi : i < t.liveLen)
    (hx : t.slots (adv t.tlBegin i) = .req x)
    (hn : ∀ j, i < j → j < t.liveLen → t.slots (adv t.tlBegin j) ≠ .req x) :
    (tlDependence t x).1 = { t with slots := Function.update t.slots (adv t.tlBegin i) .empty } ∧
      ((tlDependence t x).2 = true ↔
        ∀ j, i < j → j < t.liveLen → t.slots (adv t.tlBegin j) ≠ .barrier) := by
  obtain ⟨h₁, h₂⟩ := dependenceLoop_found hx n t.liveLen true t.liveLen_lt t.liveLen_lt hi hn
  rw [← t.tlEnd_eq_adv] at h₁ h₂
  exact ⟨by simp only [tlDependence, h₁], by simpa only [tlDependence, true_and] using h₂⟩

/-- `tl_dependence` on any ring: the walk back from `tl_end` stops at `tl_begin`, within the
window, with fuel to spare; it returns `TRUE` exactly when the request is in the window after
the window's last barrier; and it blanks the newest entry of the request and no other slot, or
changes nothing when the window does not hold the request. -/
theorem tlDependence_blanks_newest (t : TransferLog n) (x : Nat) :
    (∀ fuel, t.liveLen < fuel → dependenceLoop t.tlBegin x t.slots fuel t.tlEnd true =
        ((tlDependence t x).1.slots, (tlDependence t x).2)) ∧
      ((tlDependence t x).2 = true ↔
        ∃ i : Nat, t.live[i]? = some (.req x) ∧ ∀ j : Nat, i < j → t.live[j]? ≠ some .barrier) ∧
      (TlSlot.req x ∉ t.live → (tlDependence t x).1 = t) ∧
      (∀ i : Nat, t.live[i]? = some (.req x) → (∀ j : Nat, i < j → t.live[j]? ≠ some (.req x)) →
        (tlDependence t x).1 = { t with slots := Function.update t.slots (adv t.tlBegin i) .empty }) := by
  have hL := t.liveLen_lt
  refine ⟨fun fuel hf => ?_, ?_⟩
  · show _ = dependenceLoop t.tlBegin x t.slots n t.tlEnd true
    rw [t.tlEnd_eq_adv]; exact dependenceLoop_fuel fuel n _ true hf hL hL
  simp only [TransferLog.live_getElem?_eq_some, List.mem_iff_getElem?, not_exists, not_and, ne_eq]
  by_cases hx : ∃ i < t.liveLen, t.slots (adv t.tlBegin i) = .req x
  · obtain ⟨i₀, hi₀, hx₀⟩ := hx
    obtain ⟨i, hi, hxi, hn⟩ := t.exists_newest hi₀ hx₀
    obtain ⟨h₁, h₂⟩ := tlDependence_found hi hxi hn
    have hle : ∀ i', i' < t.liveLen → t.slots (adv t.tlBegin i') = .req x → i' ≤ i :=
      fun i' hi' hx' => Nat.le_of_not_lt fun h => hn i' h hi' hx'
    refine ⟨h₂.trans ⟨fun hb => ⟨i, ⟨hi, hxi⟩, hb⟩, ?_⟩, fun hn' => absurd hxi (hn' i hi),
      fun i' hi' hn' => ?_⟩
    · rintro ⟨i', hi', hb⟩ j h hj
      exact hb j ((hle i' hi'.1 hi'.2).trans_lt h) hj
    · obtain rfl : i' = i :=
        le_antisymm (hle i' hi'.1 hi'.2) (Nat.le_of_not_lt fun h => hn' i h hi hxi)
      exact h₁
  · push_neg at hx
    rw [tlDependence_absent hx]
    refine ⟨⟨by simp, fun ⟨i, hi, _⟩ => absurd hi.2 (hx i hi.1)⟩, fun _ => rfl,
      fun i hi => absurd hi.2 (hx i hi.1)⟩

end Window

/-! ### The ring refines the FIFO -/

section Refinement

theorem blankNewest_length {α : Type} (p q : α → Bool) (b : α) :
    ∀ l, (blankNewest p q b l).1.length = l.length
  | [] => rfl
  | a :: as => by
    simp only [blankNewest]; split <;> simp [blankNewest_length p q b as]

theorem blankNewest_map {α β : Type} (f : α → β) {p q : α → Bool} {u v : β → Bool} {b : α}
    {c : β} (hp : ∀ a, u (f a) = p a) (hq : ∀ a, v (f a) = q a) (hb : f b = c) :
    ∀ l, blankNewest u v c (l.map f) =
      ((blankNewest p q b l).1.map f, (blankNewest p q b l).2)
  | [] => rfl
  | a :: as => by
    simp only [List.map_cons, blankNewest, hp, hq, blankNewest_map f hp hq hb as]
    split <;> simp [hb]

theorem blankNewest_append_barrier {α : Type} {p q : α → Bool} {b a : α} (hp : p a = false)
    (hq : q a = true) :
    ∀ l, blankNewest p q b (l ++ [a]) = ((blankNewest p q b l).1 ++ [a], (blankNewest p q b l).2)
  | [] => by simp [blankNewest, hp, hq]
  | c :: cs => by
    simp only [List.cons_append, blankNewest]
    split <;> simp [blankNewest_append_barrier hp hq cs]

theorem blankNewest_map_eq {α β : Type} (f : α → β) {p q : α → Bool} {b : α}
    (hb : ∀ a, p a = true → f b = f a) :
    ∀ l, (blankNewest p q b l).1.map f = l.map f
  | [] => rfl
  | a :: as => by
    simp only [blankNewest]
    split
    · simp [hb a ‹_›]
    · simp [blankNewest_map_eq f hb as]

theorem TlEntry.slot_eq_req {e : TlEntry} {x : Nat} : e.slot = .req x ↔ e = .req x := by
  cases e <;> simp [TlEntry.slot]

theorem TlEntry.slot_eq_barrier {e : TlEntry} : e.slot = .barrier ↔ e.nr?.isSome := by
  cases e <;> simp [TlEntry.slot, TlEntry.nr?]

theorem TlEntry.slot_ne_barrier {e : TlEntry} (he : e.nr? = none) : e.slot ≠ .barrier := by
  cases e <;> simp_all [TlEntry.slot, TlEntry.nr?]

theorem epoch_slots {front : Bool} {ep : List TlEntry} (hep : ∀ e ∈ ep, e.nr? = none)
    (hne : front = false → ep ≠ []) :
    let P := (if front then [TlSlot.barrier] else []) ++ ep.map TlEntry.slot
    0 < P.length ∧ (∀ i, 0 < i → i < P.length → P[i]? ≠ some TlSlot.barrier) ∧
      (if P[0]? = some TlSlot.barrier then (-1 : Int) else 0) + P.length = ep.length := by
  have hb : ∀ i, (ep.map TlEntry.slot)[i]? ≠ some TlSlot.barrier := fun i h' => by
    obtain ⟨e, he, hs⟩ := List.mem_map.1 (List.getElem?_mem h')
    exact TlEntry.slot_ne_barrier (hep e he) hs
  cases front
  · obtain ⟨e, es, rfl⟩ := List.exists_cons_of_ne_nil (hne rfl)
    simp only [Bool.false_eq_true, if_false, List.nil_append]
    exact ⟨by simp, fun i _ _ => hb i, by rw [if_neg (hb 0)]; simp⟩
  · simp only [if_true, List.singleton_append, List.getElem?_cons_zero, List.length_cons,
      List.length_map]
    refine ⟨by omega, fun i h0 _ => ?_, by omega⟩
    obtain ⟨i, rfl⟩ : ∃ i', i = i' + 1 := ⟨i - 1, by omega⟩
    rw [List.getElem?_cons_succ]
    exact hb i

theorem blankSlot_window (A : TlSpec) (x : Nat) :
    (blankSlot x A.window.reverse).1.reverse =
        (if A.front then [.barrier] else []) ++ (blankEntry x A.log.reverse).1.reverse.map TlEntry.slot ∧
      (blankSlot x A.window.reverse).2 = (blankEntry x A.log.reverse).2 := by
  have hm := blankNewest_map TlEntry.slot (p := fun e => decide (e = .req x))
    (q := fun e => e.nr?.isSome) (u := fun s => decide (s = .req x))
    (v := fun s => decide (s = .barrier)) (b := .blank) (c := .empty)
    (fun e => by simp [TlEntry.slot_eq_req]) (fun e => by simp [TlEntry.slot_eq_barrier]) rfl
    A.log.reverse
  have hb := blankNewest_append_barrier (p := fun s : TlSlot => decide (s = .req x))
    (q := fun s => decide (s = .barrier)) (b := .empty) (a := .barrier) (by simp) (by simp)
    (A.log.reverse.map TlEntry.slot)
  simp only [List.map_reverse] at hm hb
  simp only [TlSpec.window, blankSlot, blankEntry, List.reverse_append]
  cases A.front <;> simp [hm, hb]

theorem splitEpoch_eq : ∀ {l ep : List TlEntry} {m : Nat} {rest : List TlEntry},
    splitEpoch l = some (ep, m, rest) → l = ep ++ .barrier m :: rest ∧ ∀ e ∈ ep, e.nr? = none
  | [], _, _, _, h => by cases h
  | .barrier m' :: l, ep, m, rest, h => by
    simp only [splitEpoch, Option.some.injEq, Prod.mk.injEq] at h
    obtain ⟨rfl, rfl, rfl⟩ := h
    simp
  | .req x :: l, ep, m, rest, h | .blank :: l, ep, m, rest, h => by
    simp only [splitEpoch, Option.map_eq_some'] at h
    obtain ⟨⟨ep', m', rest'⟩, h', he⟩ := h
    simp only [Prod.mk.injEq] at he
    obtain ⟨rfl, rfl, rfl⟩ := he
    obtain ⟨rfl, hn⟩ := splitEpoch_eq h'
    exact ⟨rfl, by simpa [TlEntry.nr?] using hn⟩

variable {n : Nat}

/-- The ring `t` implements the FIFO `A`: its window holds the slots of `A`, `barrier_nr_issue`
is the next number of `A`, the barriers of the log are numbered from `barrier_nr_done` on, and a
log with no acknowledged barrier in front does not start with a barrier. -/
structure Refines (t : TransferLog n) (A : TlSpec) : Prop where
  holds : t.Holds A.window
  issue : t.barrierNrIssue = A.issue
  done_le : t.barrierNrDone ≤ A.issue
  numbers : A.log.filterMap TlEntry.nr? = List.range' t.barrierNrDone (A.issue - t.barrierNrDone)
  head : A.front = false → ∀ e ∈ A.log.head?, e.nr? = none

theorem mem_head?_append {α : Type} {l : List α} {a e : α} (he : e ∈ (l ++ [a]).head?) :
    e ∈ l.head? ∨ (l = [] ∧ e = a) := by
  cases l <;> simp_all

theorem TlSpec.window_append (A : TlSpec) (e : TlEntry) :
    TlSpec.window { A with log := A.log ++ [e] } = A.window ++ [e.slot] := by
  simp [TlSpec.window]

theorem Refines.add {t : TransferLog n} {A : TlSpec} (h : Refines t A)
    (hl : A.window.length + 1 < n) (x : Nat) :
    Refines (tlAdd t x).1 { A with log := A.log ++ [.req x] } ∧ (tlAdd t x).2 = false := by
  obtain ⟨hp, hs⟩ := h.holds.put hl (.req x)
  refine ⟨⟨by rw [TlSpec.window_append]; exact hp, h.issue, h.done_le, ?_, fun hf e he => ?_⟩, hs⟩
  · simpa [TlEntry.nr?] using h.numbers
  · rcases mem_head?_append he with he | ⟨-, rfl⟩
    exacts [h.head hf e he, rfl]

theorem Refines.addBarrier {t : TransferLog n} {A : TlSpec} (h : Refines t A)
    (hl : A.window.length + 1 < n) (hne : A.window ≠ []) :
    Refines (tlAddBarrier t).1
        { A with log := A.log ++ [.barrier A.issue], issue := A.issue + 1 } ∧
      (tlAddBarrier t).2 = (A.issue, false) := by
  obtain ⟨hp, hs⟩ := h.holds.put hl .barrier
  have hw : TlSpec.window { A with log := A.log ++ [.barrier A.issue], issue := A.issue + 1 } =
      A.window ++ [.barrier] := by simp [TlSpec.window, TlEntry.slot]
  refine ⟨⟨by rw [hw]; exact ⟨hp.lt, hp.tlEnd, hp.slots⟩, by simp [tlAddBarrier, h.issue],
    show t.barrierNrDone ≤ A.issue + 1 by have := h.done_le; omega, ?_, fun hf e he => ?_⟩, ?_⟩
  · have hd := h.done_le
    simp only [List.filterMap_append, h.numbers, TlEntry.nr?, List.filterMap_cons,
      List.filterMap_nil, tlAddBarrier, tlPut_barrierNrDone]
    rw [show A.issue + 1 - t.barrierNrDone = A.issue - t.barrierNrDone + 1 by omega,
      List.range'_concat]
    congr 2; omega
  · rcases mem_head?_append he with he | ⟨hlog, -⟩
    · exact h.head hf e he
    · simp_all [TlSpec.window]
  · simp [tlAddBarrier, h.issue, hs]

theorem blankEntry_nr (x : Nat) (l : List TlEntry) :
    (blankEntry x l).1.map TlEntry.nr? = l.map TlEntry.nr? :=
  blankNewest_map_eq TlEntry.nr? (fun a ha => by simp at ha; subst ha; rfl) l

theorem Refines.dependence {t : TransferLog n} {A : TlSpec} (h : Refines t A) (x : Nat) :
    Refines (tlDependence t x).1 { A with log := (blankEntry x A.log.reverse).1.reverse } ∧
      (tlDependence t x).2 = (blankEntry x A.log.reverse).2 := by
  obtain ⟨h₁, h₂⟩ := dependenceLoop_eq h.holds x n A.window.length true le_rfl h.holds.lt
  rw [← h.holds.tlEnd] at h₁ h₂
  simp only [List.take_length, List.drop_length, List.append_nil, Bool.true_and] at h₁ h₂
  obtain ⟨hw, hr⟩ := blankSlot_window A x
  have hw' : TlSpec.window { A with log := (blankEntry x A.log.reverse).1.reverse } =
      (blankSlot x A.window.reverse).1.reverse := hw.symm
  have hlen : (blankSlot x A.window.reverse).1.reverse.length = A.window.length := by
    simp [blankSlot, blankNewest_length]
  have hm : (blankEntry x A.log.reverse).1.reverse.map TlEntry.nr? = A.log.map TlEntry.nr? := by
    rw [List.map_reverse, blankEntry_nr, List.map_reverse, List.reverse_reverse]
  refine ⟨⟨⟨?_, ?_, ?_⟩, h.issue, h.done_le, ?_, fun hf e he => ?_⟩, by rw [← hr]; exact h₁⟩
  · rw [hw', hlen]; exact h.holds.lt
  · rw [hw', hlen]; exact h.holds.tlEnd
  · rw [hw']; exact h₂
  · have := congrArg (List.filterMap id) hm
    simpa [List.filterMap_map] using this.trans (by simpa [List.filterMap_map] using h.numbers)
  · have hh := congrArg List.head? hm
    simp only [List.head?_map] at hh
    rw [Option.mem_def] at he
    rw [he] at hh
    cases he' : A.log.head? with
    | none => simp [he'] at hh
    | some e' =>
      simp only [he', Option.map_some', Option.some.injEq] at hh
      rw [hh]; exact h.head hf e' he'

theorem Refines.oldest_barrier {t : TransferLog n} {A : TlSpec} (h : Refines t A)
    {ep rest : List TlEntry} {m : Nat} (hlog : A.log = ep ++ .barrier m :: rest)
    (hep : ∀ e ∈ ep, e.nr? = none) :
    t.barrierNrDone = m ∧ t.barrierNrDone < A.issue ∧ rest.filterMap TlEntry.nr? =
      List.range' (t.barrierNrDone + 1) (A.issue - (t.barrierNrDone + 1)) := by
  have hnum := h.numbers
  rw [hlog, List.filterMap_append, List.filterMap_eq_nil_iff.2 hep, List.nil_append,
    List.filterMap_cons] at hnum
  simp only [TlEntry.nr?] at hnum
  obtain ⟨k, hk⟩ : ∃ k, A.issue - t.barrierNrDone = k + 1 := by
    cases hr : A.issue - t.barrierNrDone
    · rw [hr] at hnum; simp at hnum
    · exact ⟨_, rfl⟩
  rw [hk, List.range'_succ, List.cons.injEq] at hnum
  obtain ⟨rfl, hrest⟩ := hnum
  exact ⟨rfl, by omega, by rw [show A.issue - (t.barrierNrDone + 1) = k by omega]; exact hrest⟩

theorem Refines.release {t : TransferLog n} {A : TlSpec} (h : Refines t A) {ep : List TlEntry}
    {m : Nat} {rest : List TlEntry} (hs : splitEpoch A.log = some (ep, m, rest)) :
    ∃ t', tlRelease t m ep.length = some (t', ⟨false, false, false⟩) ∧
      Refines t' { A with front := true, log := rest } := by
  obtain ⟨hlog, hep⟩ := splitEpoch_eq hs
  obtain ⟨rfl, hlt, hrest⟩ := h.oldest_barrier hlog hep
  have hne : A.front = false → ep ≠ [] := fun hf he => by
    subst he
    exact absurd (h.head hf (.barrier t.barrierNrDone) (by simp [hlog])) (by simp [TlEntry.nr?])
  obtain ⟨hpos, hPb, hes⟩ := epoch_slots hep hne
  set P : List TlSlot := (if A.front then [.barrier] else []) ++ ep.map TlEntry.slot
  have hH : t.Holds (P ++ .barrier :: rest.map TlEntry.slot) := by
    have hW : A.window = P ++ .barrier :: rest.map TlEntry.slot := by
      simp [P, TlSpec.window, hlog, TlEntry.slot]
    exact hW ▸ h.holds
  have hr := tlRelease_window hH hpos hPb t.barrierNrDone ep.length
  simp only [hes, ne_eq, not_true_eq_false, decide_False] at hr
  refine ⟨_, hr, ⟨?_, h.issue, hlt, hrest, by simp⟩⟩
  rw [show TlSpec.window { A with front := true, log := rest } =
    (P ++ .barrier :: rest.map TlEntry.slot).drop P.length by simp [TlSpec.window, TlEntry.slot]]
  exact hH.drop (by simp) rfl rfl rfl

theorem Refines.apply {t : TransferLog n} {A A' : TlSpec} {op : TlOp} {o : TlOut}
    (h : Refines t A) (hA : A.apply n op = some (A', o)) :
    ∃ t', t.apply op = some (t', o) ∧ Refines t' A' := by
  cases op with
  | add x =>
    simp only [TlSpec.apply] at hA
    split_ifs at hA with hl
    cases hA
    obtain ⟨hr, hs⟩ := h.add hl x
    exact ⟨_, by rw [TransferLog.apply, hs], hr⟩
  | addBarrier =>
    simp only [TlSpec.apply] at hA
    split_ifs at hA with hl
    cases hA
    obtain ⟨hr, hs⟩ := h.addBarrier hl.1 hl.2
    exact ⟨_, by rw [TransferLog.apply, hs], hr⟩
  | dependence x =>
    simp only [TlSpec.apply, Option.some.injEq, Prod.mk.injEq] at hA
    obtain ⟨rfl, rfl⟩ := hA
    exact ⟨_, by rw [TransferLog.apply, (h.dependence x).2], (h.dependence x).1⟩
  | release nr size =>
    simp only [TlSpec.apply] at hA
    split at hA
    · rename_i ep m rest hs
      split_ifs at hA with hc
      obtain ⟨rfl, rfl⟩ := hc
      cases hA
      obtain ⟨t', ht', hr⟩ := h.release hs
      exact ⟨t', by simp [TransferLog.apply, ht'], hr⟩
    · cases hA

theorem Refines.run {ops : List TlOp} :
    ∀ {t : TransferLog n} {A A' : TlSpec} {outs : List TlOut}, Refines t A →
      A.run n ops = some (A', outs) → ∃ t', tlRun t ops = some (t', outs) ∧ Refines t' A' := by
  induction ops with
  | nil =>
    intro t A A' outs h hA
    simp only [TlSpec.run, Option.some.injEq, Prod.mk.injEq] at hA
    obtain ⟨rfl, rfl⟩ := hA
    exact ⟨t, rfl, h⟩
  | cons op ops ih =>
    intro t A A' outs h hA
    simp only [TlSpec.run] at hA
    split at hA
    · rename_i A₁ o hA₁
      obtain ⟨⟨A₂, outs₂⟩, hr, he⟩ := Option.map_eq_some'.1 hA
      cases he
      obtain ⟨t₁, ht₁, h₁⟩ := h.apply hA₁
      obtain ⟨t₂, ht₂, h₂⟩ := ih h₁ hr
      exact ⟨t₂, by simp [tlRun, ht₁, ht₂], h₂⟩
    · cases hA

theorem Refines.clear {t : TransferLog n} {A : TlSpec} (h : Refines t A) :
    (tlClear t).2 = A.requests ∧ (tlClear t).1.tlBegin = (tlClear t).1.tlEnd := by
  refine ⟨?_, rfl⟩
  have hc := clearLoop_eq h.holds n 0 (Nat.zero_le _) (by have := h.holds.lt; omega)
  rw [adv_zero, List.drop_zero] at hc
  simp only [tlClear, hc]
  cases A.front <;> simp [TlSpec.window, TlSpec.requests, List.filterMap_map, Function.comp_def,
    TlSlot.req?]

theorem Refines.empty (t : TransferLog n) (hb : t.tlBegin = t.tlEnd)
    (hd : t.barrierNrDone = t.barrierNrIssue) : Refines t ⟨false, [], t.barrierNrIssue⟩ := by
  refine ⟨⟨by simpa [TlSpec.window] using t.tlBegin.pos, by simp [TlSpec.window, adv_zero, hb],
    fun i hi => by simp [TlSpec.window] at hi⟩, rfl, hd.le, by simp [hd], by simp⟩

end Refinement

/-- From an empty ring with every barrier acknowledged, every sequence of calls the FIFO allows
returns on the ring what it returns on the FIFO, and `tl_clear` then visits the live requests of
the FIFO in order and empties the ring. -/
theorem transfer_log_refines_fifo {n : Nat} (t : TransferLog n) (hb : t.tlBegin = t.tlEnd)
    (hd : t.barrierNrDone = t.barrierNrIssue) {ops : List TlOp} {A : TlSpec} {outs : List TlOut}
    (hA : TlSpec.run n ⟨false, [], t.barrierNrIssue⟩ ops = some (A, outs)) :
    ∃ t', tlRun t ops = some (t', outs) ∧ Refines t' A ∧
      (tlClear t').2 = A.requests ∧ (tlClear t').1.tlBegin = (tlClear t').1.tlEnd := by
  obtain ⟨t', ht, hr⟩ := (Refines.empty t hb hd).run hA
  exact ⟨t', ht, hr, hr.clear⟩

/-- An empty ring of six slots. -/
def tlEmpty6 : TransferLog 6 := ⟨fun _ => .empty, 0, 0, 0, 0⟩

/-- Two epochs, a dependence in the second, and the acknowledgement of the first. -/
def twoEpochs : List TlOp :=
  [.add 1, .addBarrier, .add 2, .dependence 2, .addBarrier, .add 3, .release 0 1]

theorem two_epochs_refine_fifo :
    ∃ t', tlRun tlEmpty6 twoEpochs = some (t', [.added false, .barrier 0 false, .added false,
        .dependence true, .barrier 1 false, .added false, .released ⟨false, false, false⟩]) ∧
      Refines t' ⟨true, [.blank, .barrier 1, .req 3], 2⟩ ∧
      (tlClear t').2 = [3] ∧ (tlClear t').1.tlBegin = (tlClear t').1.tlEnd :=
  transfer_log_refines_fifo tlEmpty6 rfl rfl (by decide)

/-- A barrier, a write, a barrier, and the acknowledgement of the first barrier with the size of
its empty epoch, on an empty ring of four slots. -/
def barrierFirst : List TlOp := [.addBarrier, .add 7, .addBarrier, .release 0 0]

/-- An empty ring of four slots. -/
def tlEmpty4 : TransferLog 4 := ⟨fun _ => .empty, 0, 0, 0, 0⟩

theorem barrier_first_release_miscounts :
    ((tlRun tlEmpty4 barrierFirst).map fun y => (y.2, (tlClear y.1).2)) =
      some ([.barrier 0 false, .added false, .barrier 1 false, .released ⟨false, false, true⟩],
        []) := by
  decide

/-- Requests 1 and 2, each in an epoch that is acknowledged, request 3, and then an
acknowledgement for which no barrier is outstanding. -/
def staleAck : List TlOp :=
  [.add 1, .addBarrier, .add 2, .addBarrier, .release 0 1, .release 1 1, .add 3, .release 2 1]

/-- Three inputs the ring does not survive. A fourth append to a ring of four slots reports the
log too small and leaves it reading as empty, so `tl_clear` visits none of the four requests. An
acknowledgement while the ring holds no barrier sends `tl_release` round the ring for ever. An
acknowledgement with every barrier already acknowledged runs `tl_begin` past `tl_end` onto a
stale barrier, and `tl_clear` then visits request 2, released before. -/
theorem tl_ring_fails_at_capacity_and_stray_acks :
    ((tlRun tlEmpty4 [.add 1, .add 2, .add 3, .add 4]).map fun y => (y.2, (tlClear y.1).2)) =
        some ([.added false, .added false, .added false, .added true], []) ∧
      (∀ fuel, releaseLoop (tlAdd tlEmpty4 1).1.slots (tlAdd tlEmpty4 1).1.tlEnd fuel
        (tlAdd tlEmpty4 1).1.tlBegin 0 false = none) ∧
      ((tlRun tlEmpty6 staleAck).map fun y =>
          (y.2.getLast?, y.1.tlBegin, y.1.tlEnd, (tlClear y.1).2)) =
        some (some (.released ⟨true, false, true⟩), 1, 5, [2, 3]) :=
  ⟨by decide, fun fuel => releaseLoop_of_no_barrier (by decide) _ fuel _ _ _, by decide⟩

end Drbd
