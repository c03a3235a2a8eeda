import HwcSession.Basic

/-!
# The power HAL extension as the hint worker sees it

`PowerHalHintWorker` talks to `IPowerExt` through two binder calls, `isModeSupported`
and `setMode`. Each call can succeed, fail with no effect, or fail with
`EX_TRANSACTION_FAILED`, which the worker reads as "the service crashed": the restarted
service has no hint enabled.

The worker's side of the conversation is recorded as a log of `HalCall`s, newest first.
The service is a function of that log: `hintEnabled h calls` replays it and says whether
hint `h` is enabled after the last call. Which reply each call gets is the service's
choice; `PowerHal` gives it as a function of the call's position in the log, so "every
pattern of failures" is "every `PowerHal`".
-/

namespace HwcSession.PowerHint

/-- What one binder call to the power HAL extension returned. `failed` also stands for a
connection attempt that found no service, which returns the same `-EINVAL` and reaches
no service. -/
inductive Reply where
  | ok
  | failed
  | transactionFailed
  deriving DecidableEq, Repr

/-- A mode name of the power HAL extension: `REFRESH_<n>FPS` or `DISPLAY_IDLE`. -/
inductive Hint where
  | refresh (rate : Int)
  | displayIdle
  deriving DecidableEq, Repr

/-- One call of the worker, with the reply it got; `supported` is the answer of a
successful `isModeSupported`. -/
inductive HalCall where
  | isModeSupported (mode : Hint) (reply : Reply) (supported : Bool)
  | setMode (mode : Hint) (enabled : Bool) (reply : Reply)
  deriving DecidableEq, Repr

/-- The service's replies: the reply to, and the `isModeSupported` answer of, the call
made when the log holds `n` calls. -/
structure PowerHal where
  reply : Nat → Reply
  supported : Nat → Bool

/-- A service that accepts every call and supports every mode. -/
def PowerHal.allOk : PowerHal := ⟨fun _ => .ok, fun _ => true⟩

/-- A service that never crashes: every call succeeds or fails with no effect. -/
def PowerHal.NeverRestarts (hal : PowerHal) : Prop := ∀ n, hal.reply n ≠ .transactionFailed

/-! ## Replaying the log -/

/-- Whether hint `h` is enabled after `c`, given whether it was enabled before. A
successful `setMode` of `h` sets it, a transaction failure clears every hint. -/
def HalCall.effect (h : Hint) : HalCall → Bool → Bool
  | .setMode m b r, e =>
      match r with
      | .ok => if m = h then b else e
      | .failed => e
      | .transactionFailed => false
  | .isModeSupported _ r _, e =>
      match r with
      | .transactionFailed => false
      | _ => e

/-- Whether hint `h` is enabled at the service after the calls of `calls` (newest first),
starting from a service with no hint enabled. -/
def hintEnabled (h : Hint) : List HalCall → Bool
  | [] => false
  | c :: cs => c.effect h (hintEnabled h cs)

@[simp] theorem hintEnabled_nil (h : Hint) : hintEnabled h [] = false := rfl

@[simp] theorem hintEnabled_cons (h : Hint) (c : HalCall) (cs : List HalCall) :
    hintEnabled h (c :: cs) = c.effect h (hintEnabled h cs) := rfl

@[simp] theorem effect_setMode_ok (h m : Hint) (b e : Bool) :
    (HalCall.setMode m b .ok).effect h e = if m = h then b else e := rfl

@[simp] theorem effect_setMode_failed (h m : Hint) (b e : Bool) :
    (HalCall.setMode m b .failed).effect h e = e := rfl

@[simp] theorem effect_transactionFailed_setMode (h m : Hint) (b e : Bool) :
    (HalCall.setMode m b .transactionFailed).effect h e = false := rfl

@[simp] theorem effect_isModeSupported (h m : Hint) (r : Reply) (s e : Bool)
    (hr : r ≠ .transactionFailed) : (HalCall.isModeSupported m r s).effect h e = e := by
  cases r <;> simp_all [HalCall.effect]

@[simp] theorem effect_transactionFailed_isModeSupported (h m : Hint) (s e : Bool) :
    (HalCall.isModeSupported m .transactionFailed s).effect h e = false := rfl

/-- Some `REFRESH_<n>FPS` hint is enabled after `calls`. -/
def AnyRefreshHint (calls : List HalCall) : Prop := ∃ n, hintEnabled (.refresh n) calls

end HwcSession.PowerHint
