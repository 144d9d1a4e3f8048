import Mathlib.Data.Nat.Defs
import Mathlib.Logic.Function.Basic
import Mathlib.Tactic.SplitIfs
import Mathlib.Algebra.Group.Nat.Basic

/-! The out-of-sync bitmap of drbd 0.6 (`drbd_main.c`): `bm_init`, `bm_set_bit` with the
tracking of the blocks that share one bit (`sb_bitnr`, `sb_mask`), and the resync iterator
`bm_reset` / `bm_get_blocknr` with its helper `bm_get_bn`. The memory behind `sbm->bm` is a map
from word index to word, so that a word past the `size` bytes `bm_init` allocated can still be
read or written. -/
namespace Drbd

/-- `LN2_BPL`, the base-2 logarithm of `BITS_PER_LONG`. -/
structure Arch where
  ln2Bpl : Nat
  valid : ln2Bpl = 5 ∨ ln2Bpl = 6

/-- `BITS_PER_LONG`. -/
def Arch.bpl (a : Arch) : Nat := 2 ^ a.ln2Bpl

/-- `sizeof(unsigned long)`. -/
def Arch.wordBytes (a : Arch) : Nat := a.bpl / 8

def Arch.lp64 : Arch := ⟨6, .inr rfl⟩

/-- `BM_BLOCK_SIZE_B`: one bit per 4 KiB block. -/
def bmBlockSizeB : Nat := 12

/-- `struct BitMap`: `size` bytes of bitmap at `bm`, the block being collected in sync
(`sb_bitnr`, `sb_mask`), and the position of the resync iterator (`gb_bitnr`, `gb_snr`). -/
structure BitMap (a : Arch) where
  size : Nat
  bm : Nat → BitVec a.bpl
  sbBitnr : Nat
  sbMask : Nat
  gbBitnr : Nat
  gbSnr : Nat

section Bitmap

variable {a : Arch}

/-- `bm_init(dev)` for a device of `blkSize` KiB: `size` bytes of bitmap, or NULL when that is
zero. `mem` is what `vmalloc` returned; `memset` clears the first `size` bytes, which on a
little-endian machine are the low bits of the words, word after word. -/
def bmInit (blkSize : Nat) (mem : Nat → BitVec a.bpl) : Option (BitMap a) :=
  let size := blkSize >>> (bmBlockSizeB - 7)
  if size = 0 then none
  else some
    { size := size
      bm := fun w => mem w &&& (BitVec.allOnes a.bpl <<< (8 * size - w * a.bpl))
      sbBitnr := 0, sbMask := 0, gbBitnr := 0, gbSnr := 0 }

/-- The end of `bm_set_bit`: the check against `size`, then bit `bitnr` of the words set or
cleared. -/
def bmWriteBit (sbm : BitMap a) (bitnr : Nat) (bit : Bool) : BitMap a :=
  let w := bitnr >>> a.ln2Bpl
  if sbm.size ≤ w then sbm
  else
    let m := 1#a.bpl <<< (bitnr &&& ((1 <<< a.ln2Bpl) - 1))
    { sbm with bm := Function.update sbm.bm w (if bit then sbm.bm w ||| m else sbm.bm w &&& ~~~m) }

/-- `bm_set_bit(sbm, blocknr, ln2_block_size, bit)`, `bit` being `SS_OUT_OF_SYNC`. A report in
sync of one of the `2^cb` blocks of a bit is collected in `sb_mask`; the bit is cleared only when
the mask is full. The masks are `Nat`: for `ln2_block_size ≥ 9` they stay below `2^8`. -/
def bmSetBit (sbm : BitMap a) (blocknr ln2BlockSize : Nat) (bit : Bool) : BitMap a :=
  let cb := bmBlockSizeB - ln2BlockSize
  let bitnr := blocknr >>> cb
  let sub := 1 <<< (blocknr &&& ((1 <<< cb) - 1))
  if bit = false ∧ cb ≠ 0 then
    if sbm.sbBitnr = bitnr then
      let sbm := { sbm with sbMask := sbm.sbMask ||| sub }
      if sbm.sbMask ≠ (1 <<< (1 <<< cb)) - 1 then sbm else bmWriteBit sbm bitnr bit
    else { sbm with sbBitnr := bitnr, sbMask := sub }
  else bmWriteBit sbm bitnr bit

/-- Reports `(blocknr, bit)` handed to `bm_set_bit` in order, all with one `ln2_block_size`. -/
def bmSetBits (ln2BlockSize : Nat) : List (Nat × Bool) → BitMap a → BitMap a
  | [], sbm => sbm
  | (x, bit) :: rs, sbm => bmSetBits ln2BlockSize rs (bmSetBit sbm x ln2BlockSize bit)

/-- The loop of `bm_get_bn`, with `word` shifted so that its bit 0 is bit `nr`; it ends within
`BITS_PER_LONG` passes, so the fuel `bm_get_bn` gives it never runs out. -/
def bmGetBnLoop (a : Arch) : Nat → BitVec a.bpl → Nat → Int
  | 0, _, _ => -1
  | fuel + 1, word, nr =>
    if word &&& 1#a.bpl ≠ 0 then nr
    else if nr + 1 = a.bpl then -1
    else bmGetBnLoop a fuel (word >>> 1) (nr + 1)

/-- `bm_get_bn(word, nr)`: the first set bit of `word` after bit `nr`, or `-1`. -/
def bmGetBn (word : BitVec a.bpl) (nr : Int) : Int :=
  if nr = a.bpl - 1 then -1
  else bmGetBnLoop a a.bpl (word >>> (nr + 1).toNat) (nr + 1).toNat

/-- The `for` loop of `bm_get_blocknr` over `k` words from `wnr` on: the bit it moves
`gb_bitnr` to, if it finds one. -/
def bmScan (sbm : BitMap a) : Nat → Nat → Option Nat
  | 0, _ => none
  | k + 1, wnr =>
    if sbm.bm wnr ≠ 0 then
      let bnr : Int := if wnr = sbm.gbBitnr >>> a.ln2Bpl then
        ((sbm.gbBitnr &&& ((1 <<< a.ln2Bpl) - 1) : Nat) : Int) else -1
      let bnr := bmGetBn (sbm.bm wnr) bnr
      if bnr = -1 then bmScan sbm k (wnr + 1) else some ((wnr <<< a.ln2Bpl) + bnr.toNat)
    else bmScan sbm k (wnr + 1)

/-- Modelled from the spec: `MBDS_DONE` is defined in `drbd.h`, which is not under src/; it is a
value apart from every block number. -/
inductive BmBlock | block (n : Nat) | done
  deriving DecidableEq, Repr

/-- `bm_get_blocknr(sbm, ln2_block_size)`: the next block to resync. Only the
`size / sizeof(unsigned long)` whole words are scanned. -/
def bmGetBlocknr (sbm : BitMap a) (ln2BlockSize : Nat) : BitMap a × BmBlock :=
  let nw := sbm.size / a.wordBytes
  let cb := bmBlockSizeB - ln2BlockSize
  let out (sbm : BitMap a) : BitMap a × BmBlock :=
    ({ sbm with gbSnr := sbm.gbSnr + 1 }, .block ((sbm.gbBitnr <<< cb) + sbm.gbSnr))
  if 1 <<< cb ≤ sbm.gbSnr then
    let wnr := sbm.gbBitnr >>> a.ln2Bpl
    match bmScan sbm (nw - wnr) wnr with
    | some b => out { sbm with gbBitnr := b, gbSnr := 0 }
    | none => (sbm, .done)
  else out sbm

/-- `bm_reset(sbm, ln2_block_size)`: restart the iterator at bit 0, whose blocks come first if
it is set. -/
def bmReset (sbm : BitMap a) (ln2BlockSize : Nat) : BitMap a :=
  { sbm with
    gbBitnr := 0
    gbSnr := if sbm.bm 0 &&& 1#a.bpl ≠ 0 then 0 else 1 <<< (bmBlockSizeB - ln2BlockSize) }

/-- What `k` calls of `bm_get_blocknr` in a row return. -/
def bmGetBlocknrs (ln2BlockSize : Nat) : Nat → BitMap a → List BmBlock
  | 0, _ => []
  | k + 1, sbm => (bmGetBlocknr sbm ln2BlockSize).2 ::
      bmGetBlocknrs ln2BlockSize k (bmGetBlocknr sbm ln2BlockSize).1

end Bitmap

/-! ### What the iterator returns -/

section Iterator

variable {a : Arch}

theorem Arch.bpl_pos (a : Arch) : 0 < a.bpl := Nat.two_pow_pos _

theorem Arch.one_shiftLeft (a : Arch) : 1 <<< a.ln2Bpl = a.bpl := Nat.one_shiftLeft _

theorem Arch.shiftRight (a : Arch) (x : Nat) : x >>> a.ln2Bpl = x / a.bpl :=
  Nat.shiftRight_eq_div_pow _ _

theorem Arch.and_mask (a : Arch) (x : Nat) : x &&& (a.bpl - 1) = x % a.bpl :=
  Nat.and_pow_two_sub_one_eq_mod _ _

/-- Bit `b` of the bitmap, `b / BITS_PER_LONG` words in. -/
def BitMap.bit (sbm : BitMap a) (b : Nat) : Bool := (sbm.bm (b / a.bpl)).getLsbD (b % a.bpl)

/-- The set bits of the bitmap from `lo` up to `hi`. -/
def BitMap.setBits (sbm : BitMap a) (lo hi : Nat) : List Nat :=
  (List.range' lo (hi - lo)).filter sbm.bit

/-- The blocks of bit `b` from the `s`-th on, of the `2^cb` that share it. -/
def bitBlocksFrom (cb b s : Nat) : List Nat := (List.range' s (2 ^ cb - s)).map (b * 2 ^ cb + ·)

/-- The `2^cb` blocks of bit `b`. -/
def bitBlocks (cb b : Nat) : List Nat := bitBlocksFrom cb b 0

/-- The bits `bm_get_blocknr` scans: those of the `size / sizeof(unsigned long)` whole words. -/
def BitMap.scanEnd (sbm : BitMap a) : Nat := sbm.size / a.wordBytes * a.bpl

/-- What the iterator still has to return from `gb_bitnr`, `gb_snr` on: the rest of the blocks
of `gb_bitnr`, then those of every set bit after it among the scanned bits. -/
def BitMap.pending (sbm : BitMap a) (cb : Nat) : List Nat :=
  bitBlocksFrom cb sbm.gbBitnr sbm.gbSnr ++
    (sbm.setBits (sbm.gbBitnr + 1) sbm.scanEnd).flatMap (bitBlocks cb)

@[simp] theorem bmGetBlocknr_size (sbm : BitMap a) (l : Nat) :
    (bmGetBlocknr sbm l).1.size = sbm.size := by
  simp only [bmGetBlocknr]; split_ifs
  · split <;> rfl
  · rfl

@[simp] theorem bmGetBlocknr_bm (sbm : BitMap a) (l : Nat) :
    (bmGetBlocknr sbm l).1.bm = sbm.bm := by
  simp only [bmGetBlocknr]; split_ifs
  · split <;> rfl
  · rfl

/-- A bitmap of 12 bytes on a 64-bit machine has one whole word: bit 64, among its `size * 8`
bits and set, is never returned by the resync pass. -/
theorem bm_get_blocknr_skips_partial_word :
    ∃ s : BitMap Arch.lp64, bmInit 384 (fun _ => 0) = some s ∧ 64 < 8 * s.size ∧
      (bmSetBit s 64 12 true).bit 64 = true ∧
      bmGetBlocknrs 12 2 (bmReset (bmSetBit s 64 12 true) 12) = [.done, .done] :=
  ⟨_, rfl, by decide, by decide, by decide⟩

end Iterator

/-! ### What `bm_set_bit` writes -/

section SetBit

variable {a : Arch}

theorem Arch.mask (a : Arch) (x : Nat) : x &&& ((1 <<< a.ln2Bpl) - 1) = x % a.bpl := by
  rw [a.one_shiftLeft, a.and_mask]

theorem getLsbD_one_shiftLeft {w i j : Nat} (hj : j < w) :
    (1#w <<< j).getLsbD i = decide (i = j) := by
  simp only [BitVec.getLsbD_shiftLeft, BitVec.getLsbD_one]
  by_cases h : i = j <;> simp [h, hj] <;> omega

theorem bmWriteBit_bm (sbm : BitMap a) (bitnr : Nat) (bit : Bool) {w : Nat}
    (hw : w ≠ bitnr / a.bpl ∨ sbm.size ≤ w) : (bmWriteBit sbm bitnr bit).bm w = sbm.bm w := by
  unfold bmWriteBit
  simp only [a.shiftRight]
  split_ifs with hs
  · rfl
  all_goals exact Function.update_noteq (by omega) _ _

theorem bmWriteBit_bit (sbm : BitMap a) (bitnr : Nat) (bit : Bool) (b : Nat) :
    (bmWriteBit sbm bitnr bit).bit b =
      if b = bitnr ∧ bitnr / a.bpl < sbm.size then bit else sbm.bit b := by
  have hb := a.bpl_pos
  by_cases hw : b / a.bpl = bitnr / a.bpl ∧ bitnr / a.bpl < sbm.size
  · obtain ⟨hw, hs⟩ := hw
    have hmod : b = bitnr ↔ b % a.bpl = bitnr % a.bpl := by
      have := Nat.div_add_mod b a.bpl
      have := Nat.div_add_mod bitnr a.bpl
      constructor
      · rintro rfl; rfl
      · intro h; rw [← Nat.div_add_mod b a.bpl, ← Nat.div_add_mod bitnr a.bpl, hw, h]
    unfold bmWriteBit BitMap.bit
    simp only [a.shiftRight, a.mask, if_neg (Nat.not_le.2 hs), hw, Function.update_same]
    by_cases h : b % a.bpl = bitnr % a.bpl <;> cases bit <;>
      simp [BitVec.getLsbD_or, BitVec.getLsbD_and, BitVec.getLsbD_not,
        getLsbD_one_shiftLeft (Nat.mod_lt _ hb), Nat.mod_lt b hb, hs, hmod, h]
  · rw [if_neg (fun h => hw ⟨by rw [h.1], h.2⟩), BitMap.bit, BitMap.bit,
      bmWriteBit_bm sbm bitnr bit (by omega)]

/-- `bm_set_bit` writes at most the word of the block's bit, and only when its index is below
`size`. -/
theorem bmSetBit_bm (sbm : BitMap a) (blocknr l : Nat) (bit : Bool) {w : Nat}
    (hw : w ≠ (blocknr >>> (bmBlockSizeB - l)) / a.bpl ∨ sbm.size ≤ w) :
    (bmSetBit sbm blocknr l bit).bm w = sbm.bm w := by
  simp only [bmSetBit]
  split_ifs <;> first | rfl | exact bmWriteBit_bm _ _ _ hw

@[simp] theorem bmWriteBit_size (sbm : BitMap a) (bitnr : Nat) (bit : Bool) :
    (bmWriteBit sbm bitnr bit).size = sbm.size := by
  unfold bmWriteBit; dsimp only; split_ifs <;> rfl

@[simp] theorem bmSetBit_size (sbm : BitMap a) (blocknr l : Nat) (bit : Bool) :
    (bmSetBit sbm blocknr l bit).size = sbm.size := by
  simp only [bmSetBit]; split_ifs <;> simp

theorem bmSetBit_true_bit (sbm : BitMap a) (blocknr l b : Nat) :
    (bmSetBit sbm blocknr l true).bit b =
      (sbm.bit b || decide (b = blocknr >>> (bmBlockSizeB - l) ∧
        blocknr >>> (bmBlockSizeB - l) / a.bpl < sbm.size)) := by
  simp only [bmSetBit, Bool.true_eq_false, false_and, if_false, bmWriteBit_bit]
  split_ifs with h <;> simp [h]

theorem bmSetBits_true_bit (l : Nat) : ∀ (xs : List Nat) (sbm : BitMap a) (b : Nat),
    (bmSetBits l (xs.map (·, true)) sbm).bit b = (sbm.bit b || xs.any fun x =>
      decide (b = x >>> (bmBlockSizeB - l) ∧ x >>> (bmBlockSizeB - l) / a.bpl < sbm.size))
  | [], sbm, b => by simp [bmSetBits]
  | x :: xs, sbm, b => by
    simp only [List.map_cons, bmSetBits, bmSetBits_true_bit l xs, bmSetBit_true_bit,
      bmSetBit_size, List.any_cons, Bool.or_assoc]

@[simp] theorem bmSetBits_size (l : Nat) : ∀ (rs : List (Nat × Bool)) (sbm : BitMap a),
    (bmSetBits l rs sbm).size = sbm.size
  | [], _ => rfl
  | (x, bit) :: rs, sbm => by simp only [bmSetBits, bmSetBits_size l rs, bmSetBit_size]

/-- A bitmap of 8 bytes on a 64-bit machine is one word, yet a report for block 64 of 4 KiB
writes the word after it. -/
theorem bm_set_bit_writes_past_allocation :
    ∃ s : BitMap Arch.lp64, bmInit 256 (fun _ => 0) = some s ∧
      s.size / Arch.lp64.wordBytes = 1 ∧ (bmSetBit s 64 12 true).bm 1 ≠ s.bm 1 :=
  ⟨_, rfl, by decide, by decide⟩

/-- An out-of-sync report leaves `sb_mask` as it is, so the in-sync reports collected before it
still count: with 2 KiB blocks, in sync for block 0, out of sync for block 0, then in sync for
block 1 clears the bit of block 0. -/
theorem bm_set_bit_clears_out_of_sync_block :
    ∃ s : BitMap Arch.lp64, bmInit 384 (fun _ => 0) = some s ∧
      (bmSetBits 11 [(0, false), (0, true)] s).bit 0 = true ∧
      (bmSetBits 11 [(0, false), (0, true), (1, false)] s).bit 0 = false :=
  ⟨_, rfl, by decide, by decide⟩

end SetBit

end Drbd
