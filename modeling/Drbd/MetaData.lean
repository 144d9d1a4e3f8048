import Drbd.Handshake

/-! The metadata of drbd 0.6 (`drbd/drbd_main.c`). A node keeps its generation counters
`gen_cnt[0..PrimaryInd]` in a small file: `drbd_md_write` writes them as six big-endian `u32`s,
the five counters and then `DRBD_MAGIC`, and `drbd_md_read` reads them back, resetting the
counters and writing them when the file is missing, short or does not end in the magic.
`drbd_md_inc` counts an event in one counter, and after the handshake `drbd_md_syncq_ok` decides
on each node whether a quick resync is enough.

What is written is read back, and a read leaves the file and the counters in agreement; the node
with the good data allows a quick resync only when its partner does; and a counted event makes
the node compare above its earlier self, except when the counter wraps. -/
namespace Drbd

/-- Modelled from the spec: `drbd.h` is not under src/. `DRBD_MAGIC`, the fixed cookie the
metadata file ends with. -/
def drbdMagic : Nat := 0x83740267

/-- `drbd.h` is not under src/. The indices of `enum MetaDataIndex` the code names besides
`PrimaryInd`: `Consistent`, the counters `HumanCnt` to `ArbitraryCnt` the bitmap generation is
compared on, and `MagicNr`, the word after the counters. -/
def consistent : Fin (primaryInd + 1) := 0

def humanCnt : Fin (primaryInd + 1) := 1

def arbitraryCnt : Fin (primaryInd + 1) := 3

def magicNr : Nat := 5

/-- `drbd.h` is not under src/. `Primary` of `Drbd_State`, the value of `state` on the primary. -/
def drbdPrimary : Nat := 1

/-- `sizeof(buffer)` of `drbd_md_write` and `drbd_md_read`: `u32 buffer[6]`. -/
def mdBufferSize : Nat := 24

/-- The counters a node keeps. -/
abbrev GenCnt := Fin (primaryInd + 1) → BitVec 32

/-- The buffer `drbd_md_write` writes: `buffer[i] = cpu_to_be32(gen_cnt[i])` for
`i ≤ PrimaryInd`, then `buffer[MagicNr] = cpu_to_be32(DRBD_MAGIC)`, as bytes. -/
def mdBuffer (genCnt : GenCnt) : List (BitVec 8) :=
  (List.finRange (primaryInd + 1)).flatMap (fun i => cpuToBe 4 (genCnt i).toNat) ++
    cpuToBe 4 drbdMagic

/-- `be32_to_cpu(buffer[i])` on the bytes of a buffer. -/
def mdWord (bs : List (BitVec 8)) (i : Nat) : Nat := beToCpu ((bs.drop (4 * i)).take 4)

/-- `drbd_md_write(minor)` on a node in `state` with counters `genCnt`, whose `filp_open`
succeeds if `openOk` and whose `write` returns `w`: it sets `gen_cnt[PrimaryInd]` to whether the
node is primary, truncates the file and writes the buffer into it. It returns the counters, the
file (`none`: there is none), and whether it reports "Error writing state file". -/
def drbdMdWrite (state : Nat) (genCnt : GenCnt) (file : Option (List (BitVec 8))) (openOk : Bool)
    (w : Int) : GenCnt × Option (List (BitVec 8)) × Bool :=
  let genCnt := Function.update genCnt (Fin.last primaryInd) (if state = drbdPrimary then 1 else 0)
  if openOk then
    (genCnt, some ((mdBuffer genCnt).take w.toNat), decide (w ≠ (mdBufferSize : Int)))
  else (genCnt, file, true)

/-- The `err:` path of `drbd_md_read`: the counters before `PrimaryInd` set to 1,
`gen_cnt[PrimaryInd]` to whether the node is primary, and `drbd_md_write`. -/
def mdReadErr (state : Nat) (genCnt : GenCnt) (file : Option (List (BitVec 8))) (openOk : Bool)
    (w : Int) : GenCnt × Option (List (BitVec 8)) × Bool :=
  let genCnt := fun i => if i.val < primaryInd then 1 else genCnt i
  let genCnt := Function.update genCnt (Fin.last primaryInd) (if state = drbdPrimary then 1 else 0)
  ((drbdMdWrite state genCnt file openOk w).1, (drbdMdWrite state genCnt file openOk w).2.1, true)

/-- `drbd_md_read(minor)` on a node in `state` with counters `genCnt` and the metadata file
`file` (`none`: `filp_open` fails). `read` returns the bytes the file has, up to
`sizeof(buffer)`; a whole buffer ending in `DRBD_MAGIC` gives the counters, and anything else
takes the `err:` path, whose `drbd_md_write` opens and writes as `openOk` and `w`. It returns the
counters, the file, and whether it reports "Error reading state file". -/
def drbdMdRead (state : Nat) (genCnt : GenCnt) (file : Option (List (BitVec 8))) (openOk : Bool)
    (w : Int) : GenCnt × Option (List (BitVec 8)) × Bool :=
  match file with
  | some bs =>
    let buffer := bs.take mdBufferSize
    if buffer.length = mdBufferSize ∧ mdWord buffer magicNr = drbdMagic then
      (fun i => BitVec.ofNat 32 (mdWord buffer i), file, false)
    else mdReadErr state genCnt file openOk w
  | none => mdReadErr state genCnt file openOk w

/-- `drbd_md_inc(minor, order)`: `gen_cnt[order]++`, which wraps at `2^32`. -/
def drbdMdInc (genCnt : GenCnt) (order : Fin (primaryInd + 1)) : GenCnt :=
  Function.update genCnt order (genCnt order + 1)

/-- The loop of `drbd_md_syncq_ok` over the indices `is`: `false` at the first where the bitmap
generation `me` and the partner's counter `other` differ. -/
def syncqLoop (me other : GenCnt) : List (Fin (primaryInd + 1)) → Bool
  | [] => true
  | i :: is => if me i ≠ other i then false else syncqLoop me other is

/-- The indices `HumanCnt` to `ArbitraryCnt`, in order. -/
def gcRange : List (Fin (primaryInd + 1)) :=
  (List.finRange (primaryInd + 1)).filter fun i => humanCnt ≤ i ∧ i ≤ arbitraryCnt

/-- `drbd_md_syncq_ok(minor, partner, have_good)` on a node with counters `genCnt` and bitmap
generations `bitMapGen`: `1` if a quick resync is enough, `0` if everything must be synced. -/
def drbdMdSyncqOk (genCnt bitMapGen : GenCnt) (partner : ParameterP) (haveGood : Bool) : Int :=
  let other : GenCnt := fun i => BitVec.ofNat 32 (beToCpu (partner.genCnt i))
  if (haveGood ∧ other consistent = 0) ∨ (!haveGood ∧ genCnt consistent = 0) then 0
  else if (haveGood ∧ other (Fin.last primaryInd) = 1) ∨
      (!haveGood ∧ genCnt (Fin.last primaryInd) = 1) then 0
  else if haveGood ∧ !syncqLoop bitMapGen other gcRange then 0
  else 1

/-! ### The metadata file -/

theorem mdWord_append_zero {c : List (BitVec 8)} (hc : c.length = 4) (bs : List (BitVec 8)) :
    mdWord (c ++ bs) 0 = beToCpu c := by
  rw [mdWord, Nat.mul_zero, List.drop_zero, List.take_left' hc]

theorem mdWord_append_succ {c : List (BitVec 8)} (hc : c.length = 4) (bs : List (BitVec 8))
    (i : Nat) : mdWord (c ++ bs) (i + 1) = mdWord bs i := by
  rw [mdWord, mdWord, show 4 * (i + 1) = c.length + 4 * i by omega, List.drop_append]

theorem mdBuffer_eq (g : GenCnt) : mdBuffer g = cpuToBe 4 (g 0).toNat ++ (cpuToBe 4 (g 1).toNat ++
    (cpuToBe 4 (g 2).toNat ++ (cpuToBe 4 (g 3).toNat ++ (cpuToBe 4 (g 4).toNat ++
      cpuToBe 4 drbdMagic)))) := by
  rw [mdBuffer, show List.finRange (primaryInd + 1) = [0, 1, 2, 3, 4] from rfl]
  simp only [List.flatMap_cons, List.flatMap_nil, List.append_nil, List.append_assoc]

theorem mdBuffer_length (g : GenCnt) : (mdBuffer g).length = mdBufferSize := by
  simp [mdBuffer_eq, mdBufferSize]

theorem mdWord_mdBuffer (g : GenCnt) :
    (∀ i : Fin (primaryInd + 1), mdWord (mdBuffer g) i = (g i).toNat) ∧
      mdWord (mdBuffer g) magicNr = drbdMagic := by
  have h4 := cpuToBe_length 4
  have hv : ∀ x : BitVec 32, beToCpu (cpuToBe 4 x.toNat) = x.toNat := fun x => by
    rw [beToCpu_cpuToBe]; exact Nat.mod_eq_of_lt x.isLt
  refine ⟨fun i => ?_, ?_⟩
  · rw [mdBuffer_eq]
    obtain ⟨_ | _ | _ | _ | _ | i, hi⟩ := i
    case succ.succ.succ.succ.succ => exact absurd hi (by simp [primaryInd])
    all_goals simp only [mdWord_append_zero (h4 _), mdWord_append_succ (h4 _), hv]; rfl
  · rw [mdBuffer_eq, magicNr]
    simp only [mdWord_append_succ (h4 _)]
    rw [mdWord, Nat.mul_zero, List.drop_zero, List.take_of_length_le (h4 _).le, beToCpu_cpuToBe]
    decide

theorem drbdMdRead_mdBuffer (state : Nat) (genCnt g : GenCnt) (openOk : Bool) (w : Int) :
    drbdMdRead state genCnt (some (mdBuffer g)) openOk w = (g, some (mdBuffer g), false) := by
  obtain ⟨hw, hm⟩ := mdWord_mdBuffer g
  have hl := mdBuffer_length g
  simp only [drbdMdRead, List.take_of_length_le hl.le, hl, hm, and_self, if_true, hw,
    BitVec.ofNat_toNat, BitVec.setWidth_eq]

theorem drbdMdRead_of_not_ok {f : Option (List (BitVec 8))}
    (hf : ∀ bs, f = some bs → ¬((bs.take mdBufferSize).length = mdBufferSize ∧
      mdWord (bs.take mdBufferSize) magicNr = drbdMagic))
    (state : Nat) (g : GenCnt) (o : Bool) (w : Int) :
    drbdMdRead state g f o w = mdReadErr state g f o w := by
  cases f with
  | none => rfl
  | some bs => exact if_neg (hf bs rfl)

theorem drbdMdRead_cases (f : Option (List (BitVec 8))) :
    (∃ g, ∀ state genCnt openOk w, drbdMdRead state genCnt f openOk w = (g, f, false)) ∨
      (∀ state genCnt openOk w, drbdMdRead state genCnt f openOk w =
        mdReadErr state genCnt f openOk w) ∧
      ∀ bs, f = some bs → ¬((bs.take mdBufferSize).length = mdBufferSize ∧
        mdWord (bs.take mdBufferSize) magicNr = drbdMagic) := by
  cases f with
  | none => exact .inr ⟨fun _ _ _ _ => rfl, nofun⟩
  | some bs =>
    by_cases hg : (bs.take mdBufferSize).length = mdBufferSize ∧
        mdWord (bs.take mdBufferSize) magicNr = drbdMagic
    · exact .inl ⟨_, fun _ _ _ _ => if_pos hg⟩
    · exact .inr ⟨fun _ _ _ _ => if_neg hg, fun _ h => Option.some.inj h ▸ hg⟩

theorem drbdMdWrite_noError {state : Nat} {genCnt : GenCnt} {file : Option (List (BitVec 8))}
    {openOk : Bool} {w : Int} :
    (drbdMdWrite state genCnt file openOk w).2.2 = false ↔
      openOk = true ∧ w = mdBufferSize := by
  cases openOk <;> simp [drbdMdWrite]

theorem drbdMdWrite_file (state : Nat) (genCnt : GenCnt) (file : Option (List (BitVec 8))) :
    (drbdMdWrite state genCnt file true mdBufferSize).2.1 =
      some (mdBuffer (drbdMdWrite state genCnt file true mdBufferSize).1) := by
  simp only [drbdMdWrite, if_true, Int.toNat_ofNat]
  rw [List.take_of_length_le (mdBuffer_length _).le]

theorem drbdMdWrite_fst (state : Nat) (genCnt : GenCnt) (file : Option (List (BitVec 8)))
    (openOk : Bool) (w : Int) : (drbdMdWrite state genCnt file openOk w).1 =
      Function.update genCnt (Fin.last primaryInd) (if state = drbdPrimary then 1 else 0) := by
  cases openOk <;> rfl

theorem mdReadErr_fst (state : Nat) (g g' : GenCnt) (f f' : Option (List (BitVec 8)))
    (o o' : Bool) (w w' : Int) : (mdReadErr state g f o w).1 = (mdReadErr state g' f' o' w').1 := by
  simp only [mdReadErr, drbdMdWrite_fst, Function.update_idem]
  funext i
  by_cases hi : i = Fin.last primaryInd
  · rw [hi, Function.update_same, Function.update_same]
  · simp only [Function.update_noteq hi, Fin.val_lt_last hi, if_true]

/-- What `drbd_md_write` wrote without an error is what `drbd_md_read` reads back, on any node and
whatever the node had in memory: the counters, the file left as it is, and no error. -/
theorem md_write_read_back (state : Nat) (genCnt : GenCnt) (file : Option (List (BitVec 8)))
    (openOk : Bool) (w : Int) (h : (drbdMdWrite state genCnt file openOk w).2.2 = false)
    (state' : Nat) (genCnt' : GenCnt) (openOk' : Bool) (w' : Int) :
    drbdMdRead state' genCnt' (drbdMdWrite state genCnt file openOk w).2.1 openOk' w' =
      ((drbdMdWrite state genCnt file openOk w).1, (drbdMdWrite state genCnt file openOk w).2.1,
        false) := by
  obtain ⟨rfl, rfl⟩ := drbdMdWrite_noError.1 h
  rw [drbdMdWrite_file, drbdMdRead_mdBuffer]

theorem md_write_read_back_primary :
    (drbdMdWrite 1 (fun _ => 7) none true 24).2.2 = false ∧
      drbdMdRead 0 (fun _ => 0) (drbdMdWrite 1 (fun _ => 7) none true 24).2.1 false 0 =
        ((drbdMdWrite 1 (fun _ => 7) none true 24).1,
          (drbdMdWrite 1 (fun _ => 7) none true 24).2.1, false) :=
  ⟨rfl, md_write_read_back 1 (fun _ => 7) none true 24 rfl 0 (fun _ => 0) false 0⟩

/-- A second `drbd_md_read` finds what the first left behind: once the first has read the file, or
has written it afresh on its `err:` path, the second reads the same counters without an error and
writes nothing. -/
theorem md_read_idempotent (state : Nat) (genCnt : GenCnt) (file : Option (List (BitVec 8)))
    (state' : Nat) (genCnt' : GenCnt) (openOk' : Bool) (w' : Int) :
    drbdMdRead state' genCnt' (drbdMdRead state genCnt file true mdBufferSize).2.1 openOk' w' =
      ((drbdMdRead state genCnt file true mdBufferSize).1,
        (drbdMdRead state genCnt file true mdBufferSize).2.1, false) := by
  rcases drbdMdRead_cases file with ⟨g, hg⟩ | ⟨he, -⟩
  · rw [hg, hg]
  · simp only [he, mdReadErr]
    rw [drbdMdWrite_file, drbdMdRead_mdBuffer]

/-- Whatever the writes of the `err:` path do (the file cannot be opened, or `write` stops short),
a second `drbd_md_read` on the same node ends with the counters the first ended with. -/
theorem md_read_counters_stable (state : Nat) (genCnt genCnt' : GenCnt)
    (file : Option (List (BitVec 8))) (openOk openOk' : Bool) (w w' : Int) :
    (drbdMdRead state genCnt' (drbdMdRead state genCnt file openOk w).2.1 openOk' w').1 =
      (drbdMdRead state genCnt file openOk w).1 := by
  rcases drbdMdRead_cases file with ⟨g, hg⟩ | ⟨he, hf⟩
  · rw [hg, hg]
  rw [he]
  cases openOk
  · change (drbdMdRead state genCnt' file openOk' w').1 = _
    rw [drbdMdRead_of_not_ok hf]; exact mdReadErr_fst ..
  · change (drbdMdRead state genCnt' (some ((mdBuffer (mdReadErr state genCnt file true w).1).take
      w.toNat)) openOk' w').1 = _
    by_cases hn : mdBufferSize ≤ w.toNat
    · rw [List.take_of_length_le ((mdBuffer_length _).trans_le hn), drbdMdRead_mdBuffer]
    · rw [drbdMdRead_of_not_ok fun bs hbs h => hn ?_]
      · exact mdReadErr_fst ..
      · obtain rfl := Option.some.inj hbs
        have := h.1
        simp only [List.length_take, mdBuffer_length] at this
        omega

/-! ### Quick resync -/

theorem syncqLoop_iff (me other : GenCnt) :
    ∀ is, syncqLoop me other is = true ↔ ∀ i ∈ is, me i = other i
  | [] => by simp [syncqLoop]
  | i :: is => by
    by_cases h : me i = other i <;> simp [syncqLoop, h, syncqLoop_iff me other is]

/-- After the exchange of `ReportParams`, the node with the good data (`have_good`) finds a quick
resync enough exactly when its partner does and the partner's counters `HumanCnt` to
`ArbitraryCnt` are the bitmap generations it keeps. -/
theorem syncq_ok_agree (vA vB : Nat) (cA cB : ParamConf) (bA bB : GenCnt) :
    drbdMdSyncqOk cA.genCnt bA (drbdSendParam vB cB) true = 1 ↔
      drbdMdSyncqOk cB.genCnt bB (drbdSendParam vA cA) false = 1 ∧
        ∀ i ∈ gcRange, bA i = cB.genCnt i := by
  simp only [drbdMdSyncqOk, (drbdSendParam_unpack _ _).2.2.2.2.2, Bool.not_true, Bool.not_false,
    Bool.false_eq_true, true_and, false_and, and_false, or_false, false_or, if_false]
  split_ifs with h₁ h₂ h₃
  · simp
  · simp
  · rw [Bool.not_eq_true', ← Bool.not_eq_true, syncqLoop_iff] at h₃
    simpa using h₃
  · rw [Bool.not_eq_true', Bool.not_eq_false, syncqLoop_iff] at h₃
    simpa using h₃

/-! ### Counting an event -/

theorem mdCompareLoop_update (g : GenCnt) (o : Fin (primaryInd + 1)) (x : BitVec 32) :
    ∀ is, o ∈ is → mdCompareLoop (Function.update g o x) g is =
      if x > g o then 1 else if x < g o then -1 else 0
  | [], h => absurd h (List.not_mem_nil o)
  | i :: is, h => by
    by_cases hi : i = o
    · subst hi
      simp only [mdCompareLoop, Function.update_same]
      split_ifs with h₁ h₂
      · rfl
      · rfl
      · rw [BitVec.le_antisymm (BitVec.not_lt.1 h₁) (BitVec.not_lt.1 h₂),
          Function.update_eq_self]
        exact (mdCompareLoop_eq_zero g g is).2 fun _ _ => rfl
    · simp only [mdCompareLoop, Function.update_noteq hi, gt_iff_lt, BitVec.lt_irrefl, if_false]
      exact mdCompareLoop_update g o x is ((List.mem_cons.1 h).resolve_left (Ne.symm hi))

/-- After `drbd_md_inc` a node compares above the packet it sent before: `drbd_md_compare` answers
`1`, unless the counter was `0xFFFFFFFF` and wrapped to zero, when it answers `-1`. -/
theorem md_inc_compares_above (v : Nat) (c : ParamConf) (o : Fin (primaryInd + 1)) :
    drbdMdCompare (drbdMdInc c.genCnt o) (drbdSendParam v c) =
      if c.genCnt o = BitVec.allOnes 32 then -1 else 1 := by
  rw [drbdMdCompare_drbdSendParam, drbdMdInc, mdCompareLoop_update _ _ _ _ (List.mem_finRange o)]
  by_cases h : c.genCnt o = BitVec.allOnes 32
  · rw [h]; decide
  · have h' : (c.genCnt o).toNat ≠ 2 ^ 32 - 1 := fun e =>
      h (BitVec.eq_of_toNat_eq (by rw [e, BitVec.toNat_allOnes]))
    have : c.genCnt o < c.genCnt o + 1 := by bv_omega
    rw [if_pos this, if_neg h]

end Drbd
