import Drbd.ReqState
import Mathlib.Data.Nat.Defs

/-! The request timer of `drbd_req.c`: `request_timer_fn` looks at the oldest request of the
transfer log that waits for the peer or the local disk (`find_oldest_request`) and at nothing
else. A request that waits for the peer past `ko-count * timeout` is caught only when no pending
request precedes it in the log; one that waits for the local disk, only when in addition the
oldest pending request belongs to the same device. Jiffies are `Nat`: the wrap that
`time_is_before_eq_jiffies` allows for is left out. -/
namespace Drbd

/-- A request in `resource->transfer_log` with what the timer reads of it: its flags, the
device it belongs to, and `start_time`. -/
structure LoggedReq where
  rqState : RqState
  device : Nat
  startTime : Nat
  deriving DecidableEq, Repr

/-- `r->rq_state & (RQ_NET_PENDING|RQ_LOCAL_PENDING)`. -/
def LoggedReq.pending (r : LoggedReq) : Bool := r.rqState.netPending || r.rqState.localPending

section Timer

variable {hz : Nat} {nc : Option (Nat × Nat)} {diskTimeout : Option Nat} {stopped : Bool}
  {device : Nat} {log : List LoggedReq} {now : Nat}

end Timer

end Drbd
