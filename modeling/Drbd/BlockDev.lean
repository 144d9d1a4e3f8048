import Mathlib.Data.List.Perm.Basic
import Mathlib.Logic.Function.Basic

/-! The block-device entry points of drbd 0.6 (`drbd/drbd_main.c`): `drbd_open` counts the
opens of a minor in `open_cnt` and sets `WRITER_PRESENT` when a file is opened for writing,
refusing that on a secondary; `drbd_close` counts down and clears `WRITER_PRESENT` when the last
file of the minor is closed. Both count the module's users.

The files the block layer has open are a ghost list. Over every run from the state `drbd_init`
leaves, whatever the role changes in between, `open_cnt` is the number of open files of the
minor, `WRITER_PRESENT` is set while one of them is open for writing and clear when none is open,
and the module's use count grows by the number of open files. -/
namespace Drbd

/-- Linux's `ENODEV`. -/
def enodev : Int := 19

/-- Linux's `EROFS`. -/
def erofs : Int := 30

/-- `drbd.h` is not under src/. `Secondary` of `Drbd_State`. -/
def drbdSecondary : Nat := 2

/-- What `drbd_open` and `drbd_close` read and change of `drbd_conf[minor]`: `state`,
`open_cnt`, and the `WRITER_PRESENT` bit of `flags`. -/
structure OpenConf where
  state : Nat
  openCnt : Int
  writerPresent : Bool

/-- `minor_count`, `drbd_conf`, and the module's use count that `MOD_INC_USE_COUNT` and
`MOD_DEC_USE_COUNT` change. -/
structure BlockDevs where
  minorCount : Nat
  conf : Nat → OpenConf
  useCount : Int

/-- `drbd_open(inode, file)` on minor `minor`, with `write` for `file->f_mode & FMODE_WRITE`:
its return value and the devices after it. -/
def drbdOpen (ds : BlockDevs) (minor : Nat) (write : Bool) : Int × BlockDevs :=
  if minor ≥ ds.minorCount then (-enodev, ds)
  else if write ∧ (ds.conf minor).state = drbdSecondary then (-erofs, ds)
  else
    let c := ds.conf minor
    (0, { ds with
      conf := Function.update ds.conf minor
        { c with writerPresent := c.writerPresent || write, openCnt := c.openCnt + 1 }
      useCount := ds.useCount + 1 })

/-- `drbd_close(inode, file)` on minor `minor`; it does not read `file`, which may be `NULL`. -/
def drbdClose (ds : BlockDevs) (minor : Nat) : Int × BlockDevs :=
  if minor ≥ ds.minorCount then (-enodev, ds)
  else
    let c := ds.conf minor
    (0, { ds with
      conf := Function.update ds.conf minor
        { c with
          openCnt := c.openCnt - 1
          writerPresent := if c.openCnt - 1 = 0 then false else c.writerPresent }
      useCount := ds.useCount - 1 })

/-- A file the block layer has open: its minor, and whether it was opened for writing. -/
structure OpenFile where
  minor : Nat
  write : Bool
  deriving DecidableEq

/-- What reaches the entry points: an open of minor `minor` (for writing if `write`), the release
of an open file of minor `minor` opened with `write`, and a change of the minor's role by the
configuration code, which is not under src/. -/
inductive OpenEv
  | openDev (minor : Nat) (write : Bool)
  | closeDev (minor : Nat) (write : Bool)
  | role (minor state : Nat)

/-- One event, with the files open before it; `none` for the release of a file that
is not open, which the block layer never makes. -/
def openStep (ds : BlockDevs) (files : List OpenFile) :
    OpenEv → Option (BlockDevs × List OpenFile)
  | .openDev m w =>
    let x := drbdOpen ds m w
    some (x.2, if x.1 = 0 then files ++ [⟨m, w⟩] else files)
  | .closeDev m w => if ⟨m, w⟩ ∈ files then some ((drbdClose ds m).2, files.erase ⟨m, w⟩) else none
  | .role m s => some ({ ds with conf := Function.update ds.conf m { ds.conf m with state := s } },
      files)

def openRun : List OpenEv → BlockDevs × List OpenFile → Option (BlockDevs × List OpenFile)
  | [], x => some x
  | ev :: evs, x => (openStep x.1 x.2 ev).bind (openRun evs)

/-- What `drbd_init` sets for every minor: `open_cnt = 0` and `flags = 0`. -/
def BlockDevs.Init (ds : BlockDevs) : Prop :=
  ∀ m < ds.minorCount, (ds.conf m).openCnt = 0 ∧ (ds.conf m).writerPresent = false

instance (ds : BlockDevs) : Decidable ds.Init :=
  inferInstanceAs (Decidable (∀ m < ds.minorCount, _))

/-- The files of minor `m` among the open files. -/
def filesOf (files : List OpenFile) (m : Nat) : Nat := files.countP fun f => f.minor = m

/-- What the entry points keep over a run, for a use count that started at `u₀`. -/
structure OpenInv (u₀ : Int) (ds : BlockDevs) (files : List OpenFile) : Prop where
  inRange : ∀ f ∈ files, f.minor < ds.minorCount
  count : ∀ m < ds.minorCount, (ds.conf m).openCnt = filesOf files m
  writer : ∀ f ∈ files, f.write = true → (ds.conf f.minor).writerPresent = true
  closed : ∀ m < ds.minorCount, filesOf files m = 0 → (ds.conf m).writerPresent = false
  useCount : ds.useCount = u₀ + files.length

section Open

variable {u₀ : Int} {ds : BlockDevs} {files : List OpenFile}

theorem drbdOpen_snd_of_ne {m : Nat} {w : Bool} (h : (drbdOpen ds m w).1 ≠ 0) :
    (drbdOpen ds m w).2 = ds := by
  unfold drbdOpen at h ⊢
  split_ifs at h ⊢
  · rfl
  · rfl
  · exact absurd rfl h

theorem filesOf_append (files : List OpenFile) (f : OpenFile) (m : Nat) :
    filesOf (files ++ [f]) m = filesOf files m + if f.minor = m then 1 else 0 := by
  simp only [filesOf, List.countP_append, List.countP_singleton, decide_eq_true_eq]

theorem filesOf_erase {f : OpenFile} (hf : f ∈ files) (m : Nat) :
    filesOf files m = filesOf (files.erase f) m + if f.minor = m then 1 else 0 := by
  rw [filesOf, (List.perm_cons_erase hf).countP_eq, List.countP_cons, filesOf]
  by_cases h : f.minor = m <;> simp [h]

theorem filesOf_pos {f : OpenFile} (hf : f ∈ files) : 0 < filesOf files f.minor :=
  List.countP_pos_iff.2 ⟨f, hf, by simp⟩

theorem drbdOpen_ok {m : Nat} {w : Bool} (hs : (drbdOpen ds m w).1 = 0) :
    m < ds.minorCount ∧ (drbdOpen ds m w).2 = { ds with
      conf := Function.update ds.conf m { ds.conf m with
        writerPresent := (ds.conf m).writerPresent || w, openCnt := (ds.conf m).openCnt + 1 }
      useCount := ds.useCount + 1 } := by
  unfold drbdOpen at hs ⊢
  split_ifs at hs ⊢ with h₁
  · exact absurd hs (by simp [enodev])
  · exact absurd hs (by simp [erofs])
  · exact ⟨Nat.lt_of_not_le h₁, rfl⟩

theorem drbdClose_ok {m : Nat} (hm : m < ds.minorCount) :
    (drbdClose ds m).2 = { ds with
      conf := Function.update ds.conf m { ds.conf m with
        openCnt := (ds.conf m).openCnt - 1
        writerPresent := if (ds.conf m).openCnt - 1 = 0 then false else (ds.conf m).writerPresent }
      useCount := ds.useCount - 1 } := by
  rw [drbdClose, if_neg (Nat.not_le.2 hm)]

theorem OpenInv.openDev (h : OpenInv u₀ ds files) {m : Nat} {w : Bool}
    (hs : (drbdOpen ds m w).1 = 0) :
    OpenInv u₀ (drbdOpen ds m w).2 (files ++ [⟨m, w⟩]) := by
  obtain ⟨hm, he⟩ := drbdOpen_ok hs
  rw [he]
  refine ⟨fun f hf => ?_, fun k hk => ?_, fun f hf hw => ?_, fun k hk hz => ?_, ?_⟩
  · rcases List.mem_append.1 hf with hf | hf
    · exact h.inRange f hf
    · rw [List.mem_singleton.1 hf]; exact hm
  · have hc := h.count k hk
    rw [filesOf_append]
    by_cases hkm : k = m
    · subst hkm; simp only [Function.update_same, if_true]; omega
    · simp only [Function.update_noteq hkm, if_neg (Ne.symm hkm)]; omega
  · rcases List.mem_append.1 hf with hf | hf
    · have hw' := h.writer f hf hw
      by_cases hkm : f.minor = m
      · rw [hkm] at hw' ⊢; simp [hw']
      · simp only [Function.update_noteq hkm]; exact hw'
    · obtain rfl := List.mem_singleton.1 hf
      simp [← hw]
  · rw [filesOf_append] at hz
    by_cases hkm : k = m
    · simp [hkm] at hz
    · rw [if_neg (Ne.symm hkm), Nat.add_zero] at hz
      simp only [Function.update_noteq hkm]; exact h.closed k hk hz
  · simp only [h.useCount, List.length_append, List.length_singleton]; push_cast; omega

theorem OpenInv.closeDev (h : OpenInv u₀ ds files) {m : Nat} {w : Bool} (hf : ⟨m, w⟩ ∈ files) :
    OpenInv u₀ (drbdClose ds m).2 (files.erase ⟨m, w⟩) := by
  have hm : m < ds.minorCount := h.inRange _ hf
  have hc := h.count m hm
  have he : ∀ k, filesOf files k = filesOf (files.erase ⟨m, w⟩) k + if m = k then 1 else 0 :=
    filesOf_erase hf
  rw [drbdClose_ok hm]
  refine ⟨fun f hf' => h.inRange f (List.mem_of_mem_erase hf'), fun k hk => ?_,
    fun f hf' hw => ?_, fun k hk hz => ?_, ?_⟩
  · have hk' := he k
    by_cases hkm : k = m
    · subst hkm; simp only [Function.update_same, if_true] at hk' ⊢; omega
    · simp only [Function.update_noteq hkm, if_neg (Ne.symm hkm), Nat.add_zero] at hk' ⊢
      rw [h.count k hk, hk']
  · have hpos := filesOf_pos hf'
    have hw' := h.writer f (List.mem_of_mem_erase hf') hw
    by_cases hkm : f.minor = m
    · have hm' := he m
      simp only [if_true] at hm'
      rw [hkm] at hpos hw' ⊢
      simp only [Function.update_same]
      rw [if_neg (by omega)]
      exact hw'
    · simp only [Function.update_noteq hkm]; exact hw'
  · have hk' := he k
    by_cases hkm : k = m
    · subst hkm; simp only [Function.update_same, if_true] at hk' ⊢; rw [if_pos (by omega)]
    · simp only [if_neg (Ne.symm hkm), Nat.add_zero] at hk'
      simp only [Function.update_noteq hkm]; exact h.closed k hk (hk'.trans hz)
  · have := List.length_erase_of_mem hf
    have := List.length_pos_of_mem hf
    simp only [h.useCount, List.length_erase_of_mem hf]
    omega

theorem OpenInv.of_conf (h : OpenInv u₀ ds files) {ds' : BlockDevs}
    (hn : ds'.minorCount = ds.minorCount) (hu : ds'.useCount = ds.useCount)
    (hc : ∀ m, (ds'.conf m).openCnt = (ds.conf m).openCnt ∧
      (ds'.conf m).writerPresent = (ds.conf m).writerPresent) :
    OpenInv u₀ ds' files :=
  ⟨hn ▸ h.inRange, fun m hm => (hc m).1.trans (h.count m (hn ▸ hm)),
    fun f hf hw => (hc _).2.trans (h.writer f hf hw),
    fun m hm hz => (hc m).2.trans (h.closed m (hn ▸ hm) hz), hu.trans h.useCount⟩

theorem OpenInv.role (h : OpenInv u₀ ds files) (m s : Nat) :
    OpenInv u₀ { ds with conf := Function.update ds.conf m { ds.conf m with state := s } }
      files :=
  h.of_conf rfl rfl fun k => by
    by_cases hkm : k = m
    · subst hkm; simp
    · simp [Function.update_noteq hkm]

theorem OpenInv.step (h : OpenInv u₀ ds files) {ev : OpenEv} {x : BlockDevs × List OpenFile}
    (hx : openStep ds files ev = some x) : OpenInv u₀ x.1 x.2 := by
  cases ev with
  | openDev m w =>
    cases hx
    dsimp only
    split_ifs with hs
    · exact h.openDev hs
    · rw [drbdOpen_snd_of_ne hs]; exact h
  | closeDev m w =>
    simp only [openStep] at hx
    split_ifs at hx with hf
    cases hx
    exact h.closeDev hf
  | role m s => cases hx; exact h.role m s

theorem OpenInv.run : ∀ {evs : List OpenEv} {x y : BlockDevs × List OpenFile},
    OpenInv u₀ x.1 x.2 → openRun evs x = some y → OpenInv u₀ y.1 y.2
  | [], _, _, h, hy => by cases hy; exact h
  | _ :: _, _, _, h, hy => by
    obtain ⟨x₁, h₁, hy'⟩ := Option.bind_eq_some.1 hy
    exact OpenInv.run (h.step h₁) hy'

theorem OpenInv.init (hi : ds.Init) : OpenInv ds.useCount ds [] :=
  ⟨nofun, fun m hm => by simp [(hi m hm).1, filesOf], nofun, fun m hm _ => (hi m hm).2,
    by simp⟩

end Open

/-- From the state `drbd_init` leaves, over every run of opens, releases of open files and role
changes that the block layer and the configuration code make: `open_cnt` of every minor is the
number of its open files, `WRITER_PRESENT` is set while one of them is open for writing and clear
when none is open, and the module's use count has grown by the number of open files. -/
theorem open_count_tracks_files {ds : BlockDevs} (hi : ds.Init) (evs : List OpenEv) :
    ∀ x ∈ openRun evs (ds, []),
      (∀ m < x.1.minorCount, (x.1.conf m).openCnt = filesOf x.2 m) ∧
      (∀ f ∈ x.2, f.write = true → (x.1.conf f.minor).writerPresent = true) ∧
      (∀ m < x.1.minorCount, filesOf x.2 m = 0 → (x.1.conf m).writerPresent = false) ∧
      x.1.useCount = ds.useCount + x.2.length := fun _ hx =>
  have h := (OpenInv.init hi).run hx
  ⟨h.count, h.writer, h.closed, h.useCount⟩

/-- Two minors of a primary, nothing open. -/
def twoPrimaries : BlockDevs := ⟨2, fun _ => ⟨1, 0, false⟩, 0⟩

theorem open_count_writer_then_reader : twoPrimaries.Init ∧
    ∀ x ∈ openRun [.openDev 0 true, .openDev 0 false, .openDev 1 false, .closeDev 0 true]
        (twoPrimaries, []),
      (∀ m < x.1.minorCount, (x.1.conf m).openCnt = filesOf x.2 m) ∧
      (∀ f ∈ x.2, f.write = true → (x.1.conf f.minor).writerPresent = true) ∧
      (∀ m < x.1.minorCount, filesOf x.2 m = 0 → (x.1.conf m).writerPresent = false) ∧
      x.1.useCount = twoPrimaries.useCount + x.2.length :=
  have hi : twoPrimaries.Init := by decide
  ⟨hi, open_count_tracks_files hi _⟩

/-- `WRITER_PRESENT` outlives the writer while a reader holds the minor. -/
example : ((openRun [.openDev 0 true, .openDev 0 false, .closeDev 0 true]
    (twoPrimaries, [])).map fun x => ((x.1.conf 0).openCnt, (x.1.conf 0).writerPresent)) =
      some (1, true) := by
  decide

end Drbd
