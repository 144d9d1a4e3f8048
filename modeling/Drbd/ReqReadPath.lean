import Drbd.ReqCompletion

/-! The read path of `__drbd_make_request`: `find_peer_device_for_read` and
`drbd_may_do_local_read` pick the source of a read. The local disk serves it only when its copy
is good, a peer only when its disk is up to date, and a read with neither fails with `-EIO`
before it is linked into the transfer log. `find_peer_device_for_read` reads
`device->ldev->disk_conf->read_balancing` whether or not the submitter holds a local-disk
reference: on a diskless device it never took one, and when the local copy is not good it has
just given it back with the private bio. -/
namespace Drbd

/-- Whether the submitter holds a local-disk reference where `find_peer_device_for_read` reads
`device->ldev->disk_conf->read_balancing`: the reference `get_ldev` took with `private_bio`.
There is none when `get_ldev` failed, and the function gives it back with the bio, before that
read, when the local copy is not good. -/
def holdsLdevAtReadBalancing (r : Req) (d : Dev) : Bool :=
  (findPeerDeviceForRead r d).2.1.privateBio.isSome

section ReadPath

variable {nc : NetConf} {r : Req} {d : Dev}

theorem findPeerDeviceForRead_req_eq (r : Req) (d : Dev) :
    (findPeerDeviceForRead r d).2.1 =
      if r.privateBio.isSome && !drbdMayDoLocalRead d r.sector r.size then
        { r with privateBio := .none } else r := by
  unfold findPeerDeviceForRead; dsimp only; split_ifs <;> rfl

theorem findPeerDeviceForRead_rw (r : Req) (d : Dev) :
    (findPeerDeviceForRead r d).2.1.rw = r.rw := by
  rw [findPeerDeviceForRead_req_eq]; split_ifs <;> rfl

theorem drbdMayDoLocalRead_iff {sector size : Nat} :
    drbdMayDoLocalRead d sector size = true ↔ d.diskState = .upToDate ∨
      (d.diskState = .inconsistent ∧ ∀ p ∈ d.peers,
        bmCountBits p (bmSectToBit sector) (bmSectToBit (sector + size / 512 - 1)) = 0) := by
  unfold drbdMayDoLocalRead
  split_ifs with hu hi
  · exact iff_of_true rfl (.inl hu)
  · exact iff_of_false (by decide) fun h => h.elim hu fun h' => hi h'.1
  · simp only [not_not.mp hi, List.all_eq_true, decide_eq_true_eq, reduceCtorEq, false_or,
      eq_self_iff_true, true_and, iff_self]

theorem findPeerDeviceForRead_local (h : (findPeerDeviceForRead r d).2.1.privateBio.isSome) :
    drbdMayDoLocalRead d r.sector r.size = true := by
  rw [findPeerDeviceForRead_req_eq] at h
  split_ifs at h with hd
  · simp [PrivateBio.isSome] at h
  · simp_all

theorem findPeerLoop_upToDate (r : Req) : ∀ (ps : List PeerDevice) (i : Nat) (d : Dev) (j : Nat),
    (findPeerLoop r ps i d).1 = some j → i ≤ j ∧ ∃ p, ps[j - i]? = some p ∧ p.diskState = .upToDate
  | [], _, _, _, h => by simp [findPeerLoop] at h
  | p :: ps, i, d, j, h => by
    -- a later peer sits one place further on in `p :: ps`
    have later : ∀ d', (findPeerLoop r ps (i + 1) d').1 = some j →
        i ≤ j ∧ ∃ q, (p :: ps)[j - i]? = some q ∧ q.diskState = .upToDate := fun d' h' => by
      obtain ⟨hij, q, hq, hu⟩ := findPeerLoop_upToDate r ps (i + 1) d' j h'
      refine ⟨by omega, q, ?_, hu⟩
      rw [show j - i = j - (i + 1) + 1 by omega, List.getElem?_cons_succ]
      exact hq
    simp only [findPeerLoop] at h
    split_ifs at h with hd hb hr
    · exact later _ h
    · obtain rfl : i = j := Option.some.inj h
      exact ⟨Nat.le_refl _, p, by rw [Nat.sub_self, List.getElem?_cons_zero], not_not.mp hd⟩
    · obtain rfl : i = j := Option.some.inj h
      exact ⟨Nat.le_refl _, p, by rw [Nat.sub_self, List.getElem?_cons_zero], not_not.mp hd⟩
    · exact later _ h

/-- `find_peer_device_for_read` chooses only a peer device whose disk is up to date. -/
theorem findPeerDeviceForRead_upToDate {j : Nat} (h : (findPeerDeviceForRead r d).1 = some j) :
    ∃ p, d.peers[j]? = some p ∧ p.diskState = .upToDate := by
  unfold findPeerDeviceForRead at h
  dsimp only at h
  split_ifs at h
  all_goals first
    | cases h
    | simpa using (findPeerLoop_upToDate _ _ 0 _ j h).2

theorem makeRequestRoute_submitted_read (peer : Option Nat) (hr : r.rw ≠ .write) :
    (makeRequestRoute nc r d peer).submitted = r.privateBio.isSome := by
  simp only [makeRequestRoute, makeRequestSubmit, makeRequestOut, if_neg hr]
  split_ifs <;> simp_all [reqMod]

/-- A read is submitted to the local disk only when that disk is up to date, or inconsistent
with no out-of-sync bit of any peer in the read's range. -/
theorem makeRequestLocked_read_local (hr : r.rw ≠ .write)
    (h : (makeRequestLocked nc r d).submitted = true) :
    d.diskState = .upToDate ∨ (d.diskState = .inconsistent ∧ ∀ p ∈ d.peers,
      bmCountBits p (bmSectToBit r.sector) (bmSectToBit (r.sector + r.size / 512 - 1)) = 0) := by
  simp only [makeRequestLocked, if_neg hr] at h
  split_ifs at h with hs hn
  · simp [makeRequestOut] at h
  · simp [makeRequestOut] at h
  · rw [makeRequestRoute_submitted_read _ (by rwa [findPeerDeviceForRead_rw])] at h
    have hl := findPeerDeviceForRead_local h
    exact drbdMayDoLocalRead_iff.1 hl

theorem PrivateBio.ptrErr_of_not_isSome {b : PrivateBio} (h : b.isSome = false) : b.ptrErr = 0 := by
  cases b <;> simp_all [PrivateBio.isSome, PrivateBio.ptrErr]

theorem reqMayBeDone_inTl (d : Dev) (h : r.inTl = false) : (reqMayBeDone d r).inTl = false := by
  unfold reqMayBeDone; split_ifs <;> simp [reqIsDone, h]

theorem completeMaster_nodata (d : Dev) (hs : r.rqState = {}) (ht : r.inTl = false)
    (hb : r.privateBio.isSome = false) :
    (completeMaster r d).2.2 = some (-eioErrno) ∧ (completeMaster r d).1.inTl = false := by
  simp [completeMaster, hs, ht, PrivateBio.ptrErr_of_not_isSome hb]

theorem reqMayBeCompleted_nodata (d : Dev) (hs : r.rqState = {}) (hm : r.masterBio = true)
    (ht : r.inTl = false) (hb : r.privateBio.isSome = false) :
    (reqMayBeCompleted r d).2.2 = some (-eioErrno) ∧ (reqMayBeCompleted r d).1.inTl = false := by
  obtain ⟨h₁, h₂⟩ := completeMaster_nodata d hs ht hb
  simp only [reqMayBeCompleted, hs, hm]
  exact ⟨h₁, reqMayBeDone_inTl _ h₂⟩

theorem makeRequestPrepare_read {d₀ : Dev} {bio : Bio} {alloc : Option (Int × Option WorkCb)}
    (hp : makeRequestPrepare d₀ bio alloc = some (r, d)) (hr : bio.rw ≠ .write) :
    r.rw = bio.rw ∧ r.rqState = {} ∧ r.masterBio = true ∧ r.inTl = false := by
  cases alloc with
  | none => cases hp
  | some a =>
    simp only [makeRequestPrepare, Option.map_some', Option.some.injEq] at hp
    split_ifs at hp <;> simp only [Prod.mk.injEq] at hp <;> obtain ⟨rfl, rfl⟩ := hp <;>
      simp_all [drbdReqNew]

/-- A read with neither a good local copy nor an up-to-date peer fails with `-EIO`, is not
submitted, and is never linked into the transfer log. -/
theorem makeRequestLocked_nodata {d₀ : Dev} {bio : Bio} {alloc : Option (Int × Option WorkCb)}
    (hp : makeRequestPrepare d₀ bio alloc = some (r, d)) (hr : bio.rw ≠ .write)
    (hs : d.suspended = false)
    (hn : (findPeerDeviceForRead r { d with inFlight := d.inFlight + 1 }).1 = none)
    (hb : (findPeerDeviceForRead r { d with inFlight := d.inFlight + 1 }).2.1.privateBio.isSome =
      false) :
    (makeRequestLocked nc r d).m = some (-eioErrno) ∧ (makeRequestLocked nc r d).req.inTl = false ∧
      (makeRequestLocked nc r d).submitted = false := by
  obtain ⟨hrw, hst, hmb, htl⟩ := makeRequestPrepare_read hp hr
  have hfields := findPeerDeviceForRead_req_eq r { d with inFlight := d.inFlight + 1 }
  unfold makeRequestLocked
  rw [if_neg (by simp [hs])]
  dsimp only
  rw [if_neg (by rw [hrw]; exact hr), if_pos ⟨by rw [hn]; rfl, by rw [hb]; rfl⟩]
  obtain ⟨hm, ht⟩ := reqMayBeCompleted_nodata (r := (findPeerDeviceForRead r _).2.1)
    (findPeerDeviceForRead r { d with inFlight := d.inFlight + 1 }).2.2
    (by rw [hfields]; split_ifs <;> exact hst) (by rw [hfields]; split_ifs <;> exact hmb)
    (by rw [hfields]; split_ifs <;> exact htl) hb
  exact ⟨hm, ht, rfl⟩

end ReadPath

/-- `devOnePeer` with no local disk. -/
def devDiskless : Dev := { devOnePeer with diskState := .diskless }

/-- `devOnePeer` with an inconsistent local disk whose first block is out of sync with the
peer. -/
def devInconsistentOos : Dev :=
  { devOnePeer with diskState := .inconsistent, peers := [{ peerUpToDate with bitmap := [0] }] }

/-- A 4 KiB read on a diskless device takes no local-disk reference; on an inconsistent disk
whose range is out of sync it takes one, and `find_peer_device_for_read` gives it back with the
private bio. Either way the router reads `read_balancing` through `device->ldev` without a
reference, and then sends the read to the peer. -/
theorem read_balancing_read_without_ldev_reference :
    (∃ r d, makeRequestPrepare devDiskless read4k (some (1234, none)) = some (r, d) ∧
      d.localCnt = 0 ∧ holdsLdevAtReadBalancing r { d with inFlight := d.inFlight + 1 } = false ∧
      (makeRequestLocked protoC r d).req.rqState.netPending = true) ∧
    (∃ r d, makeRequestPrepare devInconsistentOos read4k (some (1234, none)) = some (r, d) ∧
      d.localCnt = 1 ∧ holdsLdevAtReadBalancing r { d with inFlight := d.inFlight + 1 } = false ∧
      (findPeerDeviceForRead r { d with inFlight := d.inFlight + 1 }).2.2.localCnt = 0 ∧
      (makeRequestLocked protoC r d).req.rqState.netPending = true) :=
  ⟨⟨_, _, rfl, by decide, by decide, by decide⟩,
    ⟨_, _, rfl, by decide, by decide, by decide, by decide⟩⟩

theorem makeRequestLocked_read_local_read4k :
    (drbdReqNew read4k 1234 none).rw ≠ .write ∧
      (makeRequestLocked protoC (drbdReqNew read4k 1234 none)
        { devOnePeer with localCnt := 1 }).submitted = true ∧
      (({ devOnePeer with localCnt := 1 } : Dev).diskState = .upToDate ∨
        (({ devOnePeer with localCnt := 1 } : Dev).diskState = .inconsistent ∧
          ∀ p ∈ ({ devOnePeer with localCnt := 1 } : Dev).peers,
            bmCountBits p (bmSectToBit (drbdReqNew read4k 1234 none).sector)
              (bmSectToBit ((drbdReqNew read4k 1234 none).sector +
                (drbdReqNew read4k 1234 none).size / 512 - 1)) = 0)) :=
  have hr : (drbdReqNew read4k 1234 none).rw ≠ .write := by decide
  have h : (makeRequestLocked protoC (drbdReqNew read4k 1234 none)
      { devOnePeer with localCnt := 1 }).submitted = true := by decide
  ⟨hr, h, makeRequestLocked_read_local hr h⟩

/-- `devDiskless` whose one peer is outdated: no good copy of any block. -/
def devNoGoodCopy : Dev :=
  { devDiskless with peers := [{ peerUpToDate with diskState := .outdated }] }

theorem makeRequestLocked_nodata_outdated_peer :
    makeRequestPrepare devNoGoodCopy read4k (some (1234, none)) =
        some ({ drbdReqNew read4k 1234 none with privateBio := .none }, devNoGoodCopy) ∧
      read4k.rw ≠ .write ∧ devNoGoodCopy.suspended = false ∧
      (findPeerDeviceForRead { drbdReqNew read4k 1234 none with privateBio := .none }
        { devNoGoodCopy with inFlight := devNoGoodCopy.inFlight + 1 }).1 = none ∧
      (findPeerDeviceForRead { drbdReqNew read4k 1234 none with privateBio := .none }
        { devNoGoodCopy with inFlight := devNoGoodCopy.inFlight + 1 }).2.1.privateBio.isSome =
          false ∧
      (makeRequestLocked protoC { drbdReqNew read4k 1234 none with privateBio := .none }
          devNoGoodCopy).m = some (-eioErrno) ∧
        (makeRequestLocked protoC { drbdReqNew read4k 1234 none with privateBio := .none }
          devNoGoodCopy).req.inTl = false ∧
        (makeRequestLocked protoC { drbdReqNew read4k 1234 none with privateBio := .none }
          devNoGoodCopy).submitted = false := by
  refine ⟨?hp, ?hr, ?hs, ?hn, ?hb, makeRequestLocked_nodata ?hp ?hr ?hs ?hn ?hb⟩ <;> decide

end Drbd
