import Mathlib.Data.List.FinRange
import Mathlib.Algebra.Group.Nat.Basic
import Mathlib.Data.Nat.Log

/-! The handshake of drbd 0.6 (`drbd/drbd_main.c`). `drbd_send_param` packs the parameters of a
node into a `ReportParams` packet, each field in network byte order, the generation counters
`gen_cnt[0..PrimaryInd]` among them. The peer's `drbd_md_compare` reads the counters back with
`be32_to_cpu` and compares them with its own lexicographically, first index first, to decide
which node has the good data. Each node does this on the packet of the other, and the two
answers agree.

The block size is announced as `1 << blk_size_b`, where `drbd_init` sets `blk_size_b` to
`drbd_log2(INITIAL_BLOCK_SIZE)`: `drbd_log2` is the base-2 logarithm rounded up, and it never
returns on an argument below one. -/
namespace Drbd

/-- Modelled from the spec: `drbd.h` is not under src/. `PrimaryInd`, the index of the last of
the five generation counters `ReportParams` carries. -/
def primaryInd : Nat := 4

/-- `cpu_to_be16`, `cpu_to_be32` and `cpu_to_be64`: the low `k` bytes of `x` as they lie in the
packet, most significant first. -/
def cpuToBe : Nat → Nat → List (BitVec 8)
  | 0, _ => []
  | k + 1, x => cpuToBe k (x / 256) ++ [BitVec.ofNat 8 x]

/-- `be16_to_cpu`, `be32_to_cpu` and `be64_to_cpu`. -/
def beToCpu (bs : List (BitVec 8)) : Nat := bs.foldl (fun v b => v * 256 + b.toNat) 0

theorem beToCpu_append_byte (bs : List (BitVec 8)) (b : BitVec 8) :
    beToCpu (bs ++ [b]) = beToCpu bs * 256 + b.toNat := by
  simp only [beToCpu, List.foldl_append, List.foldl_cons, List.foldl_nil]

@[simp] theorem cpuToBe_length : ∀ (k x : Nat), (cpuToBe k x).length = k
  | 0, _ => rfl
  | k + 1, x => by simp [cpuToBe, cpuToBe_length k]

theorem beToCpu_cpuToBe : ∀ (k x : Nat), beToCpu (cpuToBe k x) = x % 256 ^ k
  | 0, x => by simp [cpuToBe, beToCpu, Nat.mod_one]
  | k + 1, x => by
    rw [cpuToBe, beToCpu_append_byte, beToCpu_cpuToBe k, BitVec.toNat_ofNat,
      show 2 ^ 8 = 256 from rfl, Nat.pow_succ', Nat.mod_mul]
    omega

/-- What `drbd_send_param` reads of the node: the size of the lower device (`none` when
`blk_size[MAJOR(lo_device)]` is `NULL`), `blk_size_b`, `state`, `conf.wire_protocol` and
`gen_cnt`. -/
structure ParamConf where
  loSize : Option Nat
  blkSizeB : Nat
  state : Nat
  wireProtocol : Nat
  genCnt : Fin (primaryInd + 1) → BitVec 32

/-- `Drbd_Parameter_P` as `drbd_send_param` fills it: each field the bytes of its value in
network order, and `size` `none` where it is left unset. -/
structure ParameterP where
  size : Option (List (BitVec 8))
  blksize : List (BitVec 8)
  state : List (BitVec 8)
  protocol : List (BitVec 8)
  version : List (BitVec 8)
  genCnt : Fin (primaryInd + 1) → List (BitVec 8)

/-- `drbd_send_param` with `PRO_VERSION = proVersion`: the packet it hands to `drbd_send`. -/
def drbdSendParam (proVersion : Nat) (c : ParamConf) : ParameterP where
  size := c.loSize.map (cpuToBe 8)
  blksize := cpuToBe 4 (1 <<< c.blkSizeB)
  state := cpuToBe 4 c.state
  protocol := cpuToBe 4 c.wireProtocol
  version := cpuToBe 4 proVersion
  genCnt i := cpuToBe 4 (c.genCnt i).toNat

/-- Unpacking the packet gives back every field `drbd_send_param` wrote, in as many bytes as
the field has. -/
theorem drbdSendParam_unpack (proVersion : Nat) (c : ParamConf) :
    (drbdSendParam proVersion c).size.map beToCpu = c.loSize.map (· % 256 ^ 8) ∧
      beToCpu (drbdSendParam proVersion c).blksize = 2 ^ c.blkSizeB % 256 ^ 4 ∧
      beToCpu (drbdSendParam proVersion c).state = c.state % 256 ^ 4 ∧
      beToCpu (drbdSendParam proVersion c).protocol = c.wireProtocol % 256 ^ 4 ∧
      beToCpu (drbdSendParam proVersion c).version = proVersion % 256 ^ 4 ∧
      ∀ i, BitVec.ofNat 32 (beToCpu ((drbdSendParam proVersion c).genCnt i)) = c.genCnt i := by
  refine ⟨?_, ?_, ?_, ?_, ?_, fun i => BitVec.eq_of_toNat_eq ?_⟩
  · simp only [drbdSendParam, Option.map_map, Function.comp_def, beToCpu_cpuToBe]
  · rw [drbdSendParam, beToCpu_cpuToBe, Nat.one_shiftLeft]
  iterate 3 exact beToCpu_cpuToBe 4 _
  rw [drbdSendParam, BitVec.toNat_ofNat, beToCpu_cpuToBe, Nat.mod_mod_of_dvd _ (by decide)]
  exact Nat.mod_eq_of_lt (c.genCnt i).isLt

/-- The loop of `drbd_md_compare` over the indices `is`: `1` at the first counter where `me` is
greater, `-1` where it is smaller, `0` when they agree on all of them. -/
def mdCompareLoop (me other : Fin (primaryInd + 1) → BitVec 32) :
    List (Fin (primaryInd + 1)) → Int
  | [] => 0
  | i :: is => if me i > other i then 1 else if me i < other i then -1 else mdCompareLoop me other is

/-- `drbd_md_compare(minor, partner)` on a node with counters `genCnt`: `1` if it has the good
bits, `0` if both are nice, `-1` if the partner has them. -/
def drbdMdCompare (genCnt : Fin (primaryInd + 1) → BitVec 32) (partner : ParameterP) : Int :=
  mdCompareLoop genCnt (fun i => BitVec.ofNat 32 (beToCpu (partner.genCnt i)))
    (List.finRange (primaryInd + 1))

/-- Comparing the other way round negates the answer. -/
theorem mdCompareLoop_swap (a b : Fin (primaryInd + 1) → BitVec 32) :
    ∀ is, mdCompareLoop b a is = -mdCompareLoop a b is
  | [] => rfl
  | i :: is => by
    have ih := mdCompareLoop_swap a b is
    simp only [mdCompareLoop, gt_iff_lt, BitVec.lt_def]
    split_ifs <;> omega

/-- The loop answers `0` exactly when the counters agree at every index. -/
theorem mdCompareLoop_eq_zero (a b : Fin (primaryInd + 1) → BitVec 32) :
    ∀ is, mdCompareLoop a b is = 0 ↔ ∀ i ∈ is, a i = b i
  | [] => by simp [mdCompareLoop]
  | i :: is => by
    simp only [mdCompareLoop, gt_iff_lt, BitVec.lt_def, List.mem_cons, forall_eq_or_imp]
    split_ifs
    iterate 2
      exact ⟨fun h => absurd h (by decide), fun h => absurd (congrArg BitVec.toNat h.1) (by omega)⟩
    rw [mdCompareLoop_eq_zero a b is]
    exact ⟨fun h => ⟨BitVec.eq_of_toNat_eq (by omega), h⟩, And.right⟩

theorem lt_cons_cons_iff {α : Type} [LT α] {a b : α} {as bs : List α} :
    List.lt (a :: as) (b :: bs) ↔ a < b ∨ (¬a < b ∧ ¬b < a ∧ List.lt as bs) := by
  constructor
  · rintro (_ | ⟨_, _, h⟩ | ⟨h₁, h₂, h⟩)
    · exact .inl h
    · exact .inr ⟨h₁, h₂, h⟩
  · rintro (h | ⟨h₁, h₂, h⟩)
    · exact .head _ _ h
    · exact .tail h₁ h₂ h

theorem mdCompareLoop_lex (a b : Fin (primaryInd + 1) → BitVec 32) :
    ∀ is, (mdCompareLoop a b is = 1 ↔ List.lt (is.map b) (is.map a)) ∧
      (mdCompareLoop a b is = -1 ↔ List.lt (is.map a) (is.map b))
  | [] => ⟨⟨fun h => absurd (show (0 : Int) = 1 from h) (by decide), nofun⟩,
      ⟨fun h => absurd (show (0 : Int) = -1 from h) (by decide), nofun⟩⟩
  | i :: is => by
    have ih := mdCompareLoop_lex a b is
    simp only [mdCompareLoop, List.map_cons, lt_cons_cons_iff, gt_iff_lt, BitVec.lt_def]
    split_ifs with h₁ h₂
    · exact ⟨iff_of_true rfl (.inl h₁),
        iff_of_false (by decide) (by rintro (h | ⟨-, h, -⟩) <;> omega)⟩
    · exact ⟨iff_of_false (by decide) (by rintro (h | ⟨-, h, -⟩) <;> omega),
        iff_of_true rfl (.inl h₂)⟩
    · simpa only [h₁, h₂, false_or, not_false_eq_true, true_and] using ih

theorem drbdMdCompare_drbdSendParam (genCnt : Fin (primaryInd + 1) → BitVec 32)
    (proVersion : Nat) (c : ParamConf) :
    drbdMdCompare genCnt (drbdSendParam proVersion c) =
      mdCompareLoop genCnt c.genCnt (List.finRange (primaryInd + 1)) := by
  have h := (drbdSendParam_unpack proVersion c).2.2.2.2.2
  simp only [drbdMdCompare, h]

/-- `drbd_md_compare` on the packet of a peer is the lexicographic comparison of the two tuples of
generation counters: `1` when this node's tuple is the greater, `-1` when the peer's is. -/
theorem drbdMdCompare_lex (genCnt : Fin (primaryInd + 1) → BitVec 32) (proVersion : Nat)
    (c : ParamConf) :
    (drbdMdCompare genCnt (drbdSendParam proVersion c) = 1 ↔
        List.lt ((List.finRange (primaryInd + 1)).map c.genCnt)
          ((List.finRange (primaryInd + 1)).map genCnt)) ∧
      (drbdMdCompare genCnt (drbdSendParam proVersion c) = -1 ↔
        List.lt ((List.finRange (primaryInd + 1)).map genCnt)
          ((List.finRange (primaryInd + 1)).map c.genCnt)) := by
  rw [drbdMdCompare_drbdSendParam]
  exact mdCompareLoop_lex _ _ _

/-- Two nodes that exchange `ReportParams` packets and each run `drbd_md_compare` on the other's
get opposite answers: `A` gets `1` exactly when `B` gets `-1`, and both get `0` exactly when
their generation counters are equal. -/
theorem md_compare_answers_opposite (vA vB : Nat) (cA cB : ParamConf) :
    drbdMdCompare cB.genCnt (drbdSendParam vA cA) = -drbdMdCompare cA.genCnt (drbdSendParam vB cB) ∧
      (drbdMdCompare cA.genCnt (drbdSendParam vB cB) = 1 ↔
        drbdMdCompare cB.genCnt (drbdSendParam vA cA) = -1) ∧
      (drbdMdCompare cA.genCnt (drbdSendParam vB cB) = 0 ∧
          drbdMdCompare cB.genCnt (drbdSendParam vA cA) = 0 ↔ cA.genCnt = cB.genCnt) := by
  simp only [drbdMdCompare_drbdSendParam, mdCompareLoop_swap cA.genCnt cB.genCnt, Int.neg_eq_zero,
    and_self, mdCompareLoop_eq_zero, true_and]
  exact ⟨by omega, fun h => funext fun i => h i (List.mem_finRange i),
    fun h i _ => congrFun h i⟩

/-! ### `drbd_log2` -/

/-- The loop of `drbd_log2`: while `i != 1`, count a bit, remember in `add_one` that a set bit
was shifted out (`(i & 1) == 1`, the lowest bit of `i` in two's complement), and shift `i` right.
`none`: the loop has not ended within `fuel` rounds. -/
def log2Loop : Nat → Int → Nat → Bool → Option Nat
  | 0, _, _, _ => none
  | fuel + 1, i, bits, addOne =>
    if i ≠ 1 then log2Loop fuel (i >>> (1 : Nat)) (bits + 1) (addOne || decide (i % 2 = 1))
    else some (bits + if addOne then 1 else 0)

/-- `drbd_log2(i)`: the number of bits of `i`, rounded up. For `i ≥ 1` the loop ends within `i`
rounds; `none` stands for a loop that does not end. -/
def drbdLog2 (i : Int) : Option Nat := log2Loop i.toNat i 0 false

theorem clog_two_succ {k : Nat} (hk : k ≠ 0) : Nat.clog 2 (k + 1) = Nat.log 2 k + 1 :=
  le_antisymm
    ((Nat.le_pow_iff_clog_le Nat.one_lt_two).1 (Nat.lt_pow_succ_log_self Nat.one_lt_two k))
    ((Nat.pow_lt_iff_lt_clog Nat.one_lt_two).1 (Nat.lt_succ_of_le (Nat.pow_log_le_self 2 hk)))

theorem log2Loop_pos : ∀ (fuel n bits : Nat) (addOne : Bool), n ≠ 0 → Nat.log 2 n < fuel →
    log2Loop fuel n bits addOne =
      some (bits + if addOne then Nat.log 2 n + 1 else Nat.clog 2 n)
  | 0, _, _, _, _, h => absurd h (Nat.not_lt_zero _)
  | fuel + 1, n, bits, addOne, hn, hf => by
    rw [log2Loop]
    by_cases h1 : n = 1
    · subst h1; cases addOne <;> simp
    have h2 : 2 ≤ n := by omega
    have hlog := Nat.log_of_one_lt_of_le Nat.one_lt_two h2
    rw [if_pos (by exact_mod_cast h1), Int.shiftRight_eq_div_pow, pow_one, ← Int.ofNat_ediv,
      log2Loop_pos fuel (n / 2) (bits + 1) _ (by omega) (by omega), Option.some.injEq,
      Nat.clog_of_two_le Nat.one_lt_two h2]
    cases addOne with
    | true => simp only [Bool.true_or, ↓reduceIte]; omega
    | false =>
      rcases Nat.mod_two_eq_zero_or_one n with he | ho
      · have hodd : ¬(n : Int) % 2 = 1 := by omega
        simp only [hodd, decide_False, Bool.or_false, Bool.false_eq_true, ↓reduceIte,
          show (n + 2 - 1) / 2 = n / 2 by omega]
        omega
      · have hodd : (n : Int) % 2 = 1 := by omega
        simp only [hodd, decide_True, Bool.or_true, Bool.false_eq_true, ↓reduceIte,
          show (n + 2 - 1) / 2 = n / 2 + 1 by omega, clog_two_succ (show n / 2 ≠ 0 by omega)]
        omega

/-- On a positive `i`, `drbd_log2` returns `⌈log₂ i⌉`: the least `b` with `i ≤ 2 ^ b`. -/
theorem drbd_log2_clog (i : Int) (h : 0 < i) : drbdLog2 i = some (Nat.clog 2 i.toNat) := by
  obtain ⟨n, rfl⟩ := Int.eq_ofNat_of_zero_le h.le
  have hn : n ≠ 0 := by omega
  rw [drbdLog2, Int.toNat_ofNat, log2Loop_pos n n 0 false hn (Nat.log_lt_self 2 hn)]
  simp

theorem drbd_log2_of_4096 :
    0 < (4096 : Int) ∧ drbdLog2 4096 = some (Nat.clog 2 (4096 : Int).toNat) :=
  ⟨by decide, drbd_log2_clog 4096 (by decide)⟩

/-- Shifting keeps an `i ≤ 0` at or below zero, so the loop never meets `1`: with any fuel it
has not ended. -/
theorem drbd_log2_nonpos_never_returns :
    ∀ (fuel : Nat) (i : Int), i ≤ 0 → ∀ bits addOne, log2Loop fuel i bits addOne = none
  | 0, _, _, _, _ => rfl
  | fuel + 1, i, h, bits, addOne => by
    rw [log2Loop, if_pos (by omega)]
    exact drbd_log2_nonpos_never_returns fuel _
      (by rw [Int.shiftRight_eq_div_pow, pow_one]; omega) _ _

theorem drbd_log2_zero_never_returns : (0 : Int) ≤ 0 ∧ log2Loop 64 0 0 false = none :=
  ⟨le_rfl, drbd_log2_nonpos_never_returns 64 0 le_rfl 0 false⟩

end Drbd
