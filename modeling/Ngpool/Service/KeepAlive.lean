import Mathlib.Data.List.Basic
import Ngpool.Go

/-!
# The Status Keep-Alive Loop

`KeepAlive` keeps the service's entry `/status/<namespace>/<serviceID>` alive in etcd with a
2-second TTL. Each second, or as soon as a status is pushed, it serializes the labels and the
last status as `{"labels":…,"status":…}`. A value equal to the last one serialized is sent as a
TTL-only refresh (`Refresh` and `PrevExist`, empty value); any other value is written in full and
becomes the last value. The error of `Set` is only logged.

The last value is recorded before `Set` is called, whatever `Set` returns. A write that fails
is therefore followed, while the status does not change, by refreshes of an entry that may
never have been written.

## Main results

* `keepAliveStep_cases`: the three outcomes of one iteration.
* `keepAliveRun_refresh_iff`: along every run, and for every pattern of `Set` failures, an
  iteration refreshes exactly when its value is the last one sent in full.
* `keepAliveRun_refresh_after_failed_write`: a failed full write followed by an unchanged status
  is followed by a refresh.
-/

namespace Ngpool

/-- The etcd `SetOptions` the loop sets: the TTL in seconds, `Refresh`, and `PrevExist`
(`true` for `client.PrevExist`, `false` for the default). -/
structure SetOptions where
  ttl : Nat
  refresh : Bool
  prevExist : Bool
  deriving DecidableEq, Repr

/-- One call of `Set`: the key, the value and the options. -/
structure SetCall where
  key : String
  value : String
  opts : SetOptions
  deriving DecidableEq, Repr

/-- What wakes the loop: a status pushed on `pushStatus`, or the one-second timer. -/
inductive Tick (σ : Type)
  | push (status : σ)
  | timeout

/-- The loop's variables `lastValue` and `lastStatus`. -/
structure KeepAliveState (σ : Type) where
  lastValue : String
  lastStatus : σ

/-- The key of the service's status entry. -/
def statusKey (ns serviceID : String) : String := "/status/" ++ ns ++ "/" ++ serviceID

/-- The state before the loop: the process exits when there are no labels. -/
def keepAliveInit {σ : Type} (labelCount : Nat) (emptyStatus : σ) : Option (KeepAliveState σ) :=
  if labelCount = 0 then none else some ⟨"", emptyStatus⟩

section Loop

variable {σ : Type} (marshal : σ → Except String String) (labels : σ) (key : String)

/-- `json.Marshal` of the map `{"labels": labels, "status": status}`, keys in sorted order. -/
def serializeValue (status : σ) : Except String String := do
  let l ← marshal labels
  let s ← marshal status
  pure ("\x7b\"labels\":" ++ l ++ ",\"status\":" ++ s ++ "\x7d")

/-- The status an iteration serializes: the one pushed, or else the last one. -/
def tickStatus (st : KeepAliveState σ) : Tick σ → σ
  | .push status => status
  | .timeout => st.lastStatus

/-- One iteration of the loop: the new state and the `Set` call it makes, if any. A value that
cannot be serialized skips the call. -/
def keepAliveStep (st : KeepAliveState σ) (tick : Tick σ) : KeepAliveState σ × Option SetCall :=
  let lastStatus := tickStatus st tick
  match serializeValue marshal labels lastStatus with
  | .error _ => (⟨st.lastValue, lastStatus⟩, none)
  | .ok value =>
    if value = st.lastValue then (⟨st.lastValue, lastStatus⟩, some ⟨key, "", ⟨2, true, true⟩⟩)
    else (⟨value, lastStatus⟩, some ⟨key, value, ⟨2, false, false⟩⟩)

/-- The loop over ticks, each with the error its `Set` call returns (`none` on success): the
final state and the calls made, each with its result. The result is only logged. -/
def keepAliveRun (st : KeepAliveState σ) :
    List (Tick σ × Option String) → KeepAliveState σ × List (SetCall × Option String)
  | [] => (st, [])
  | (tick, setErr) :: rest =>
    let (st', call) := keepAliveStep marshal labels key st tick
    let (stₙ, calls) := keepAliveRun st' rest
    (stₙ, (call.map fun c => (c, setErr)).toList ++ calls)

/-- **One iteration.** A value that does not serialize makes no call; the last value sent in
full is refreshed; any other value is written in full and becomes the last value. -/
theorem keepAliveStep_cases (st : KeepAliveState σ) (tick : Tick σ) :
    (∃ e, serializeValue marshal labels (tickStatus st tick) = .error e ∧
      keepAliveStep marshal labels key st tick = (⟨st.lastValue, tickStatus st tick⟩, none)) ∨
    (serializeValue marshal labels (tickStatus st tick) = .ok st.lastValue ∧
      keepAliveStep marshal labels key st tick =
        (⟨st.lastValue, tickStatus st tick⟩, some ⟨key, "", ⟨2, true, true⟩⟩)) ∨
    (∃ v, serializeValue marshal labels (tickStatus st tick) = .ok v ∧ v ≠ st.lastValue ∧
      keepAliveStep marshal labels key st tick =
        (⟨v, tickStatus st tick⟩, some ⟨key, v, ⟨2, false, false⟩⟩)) := by
  simp only [keepAliveStep]
  cases h : serializeValue marshal labels (tickStatus st tick) with
  | error e => exact .inl ⟨e, rfl, rfl⟩
  | ok v =>
    by_cases hv : v = st.lastValue
    · exact .inr (.inl ⟨hv ▸ rfl, by simp [hv]⟩)
    · exact .inr (.inr ⟨v, rfl, hv, by simp [hv]⟩)

/-- A serialized value is a JSON object, never empty. -/
theorem serializeValue_ne_empty {status : σ} {v : String}
    (h : serializeValue marshal labels status = .ok v) : v ≠ "" := by
  obtain ⟨l, -, h⟩ := bind_eq_ok.mp h
  obtain ⟨s, -, h⟩ := bind_eq_ok.mp h
  cases h
  intro h
  simpa using congrArg String.data h

/-- An iteration whose status serializes to `v` leaves `v` as the last value. -/
theorem keepAliveStep_lastValue {st : KeepAliveState σ} {tick : Tick σ} {v : String}
    (hv : serializeValue marshal labels (tickStatus st tick) = .ok v) :
    (keepAliveStep marshal labels key st tick).1.lastValue = v := by
  rcases keepAliveStep_cases marshal labels key st tick with
    ⟨_, he, -⟩ | ⟨he, h⟩ | ⟨w, he, -, h⟩ <;> rw [hv] at he <;> cases he <;> rw [h]

/-- An iteration whose status serializes to the last value only refreshes. -/
theorem keepAliveStep_of_lastValue {st : KeepAliveState σ} {tick : Tick σ}
    (hv : serializeValue marshal labels (tickStatus st tick) = .ok st.lastValue) :
    keepAliveStep marshal labels key st tick =
      (⟨st.lastValue, tickStatus st tick⟩, some ⟨key, "", ⟨2, true, true⟩⟩) := by
  simp [keepAliveStep, hv]

/-- The value of the last full write among `calls`, or `v` when there is none. -/
def lastWrite (v : String) (calls : List (SetCall × Option String)) : String :=
  calls.foldl (fun v c => if c.1.opts.refresh then v else c.1.value) v

/-- Along every run, the last value is the one last sent in full, whatever `Set` returned. -/
theorem keepAliveRun_lastValue (st : KeepAliveState σ) (ticks : List (Tick σ × Option String)) :
    (keepAliveRun marshal labels key st ticks).1.lastValue =
      lastWrite st.lastValue (keepAliveRun marshal labels key st ticks).2 := by
  induction ticks generalizing st with
  | nil => rfl
  | cons t ticks ih =>
    obtain ⟨tick, err⟩ := t
    rcases keepAliveStep_cases marshal labels key st tick with
      ⟨_, -, h⟩ | ⟨-, h⟩ | ⟨v, -, -, h⟩ <;>
      simp only [keepAliveRun, h, Option.map_none', Option.map_some', Option.toList_none,
        Option.toList_some, List.nil_append, List.singleton_append] <;>
      exact ih _

/-- **Refreshes along a run.** For every run from `st` and every pattern of `Set` results, the
next iteration refreshes exactly when its value serializes to the last value sent in full before
it, whether or not that write succeeded. -/
theorem keepAliveRun_refresh_iff (st : KeepAliveState σ) (ticks : List (Tick σ × Option String))
    (tick : Tick σ) (v : String)
    (hv : serializeValue marshal labels
      (tickStatus (keepAliveRun marshal labels key st ticks).1 tick) = .ok v) :
    (keepAliveStep marshal labels key (keepAliveRun marshal labels key st ticks).1 tick).2 =
      some ⟨key, "", ⟨2, true, true⟩⟩ ↔
    v = lastWrite st.lastValue (keepAliveRun marshal labels key st ticks).2 := by
  rw [← keepAliveRun_lastValue]
  rcases keepAliveStep_cases marshal labels key (keepAliveRun marshal labels key st ticks).1 tick
    with ⟨_, he, -⟩ | ⟨he, h⟩ | ⟨w, he, hne, h⟩ <;> rw [hv] at he <;> cases he
  · simp [h]
  · simp [h, hne]

/-- A run followed by one more tick is the run, then one iteration from the state it ends in. -/
theorem keepAliveRun_append (st : KeepAliveState σ) (ticks : List (Tick σ × Option String))
    (tick : Tick σ) (setErr : Option String) :
    keepAliveRun marshal labels key st (ticks ++ [(tick, setErr)]) =
      ((keepAliveStep marshal labels key (keepAliveRun marshal labels key st ticks).1 tick).1,
        (keepAliveRun marshal labels key st ticks).2 ++
          ((keepAliveStep marshal labels key (keepAliveRun marshal labels key st ticks).1
            tick).2.map fun c => (c, setErr)).toList) := by
  induction ticks generalizing st with
  | nil => simp [keepAliveRun]
  | cons t ticks ih => simp [keepAliveRun, ih]

/-- **A failed write is followed by a refresh.** When a pushed status serializes to a new value
`v`, the loop writes `v` in full; if that `Set` fails and the next tick is the timer, the next
call is a TTL-only refresh all the same. -/
theorem keepAliveRun_refresh_after_failed_write (st : KeepAliveState σ) (status : σ) (v : String)
    (err : String) (next : Option String)
    (hv : serializeValue marshal labels status = .ok v) (hne : v ≠ st.lastValue) :
    (keepAliveRun marshal labels key st [(.push status, some err), (.timeout, next)]).2 =
      [(⟨key, v, ⟨2, false, false⟩⟩, some err), (⟨key, "", ⟨2, true, true⟩⟩, next)] := by
  have hwrite : keepAliveRun marshal labels key st [(.push status, some err)] =
      (⟨v, status⟩, [(⟨key, v, ⟨2, false, false⟩⟩, some err)]) := by
    simp [keepAliveRun, keepAliveStep, tickStatus, hv, hne]
  have hrefresh := (keepAliveRun_refresh_iff marshal labels key st [(.push status, some err)]
    .timeout v (by rw [hwrite]; exact hv)).mpr (by simp [hwrite, lastWrite])
  rw [show [(Tick.push status, some err), (.timeout, next)] =
    [(.push status, some err)] ++ [(.timeout, next)] from rfl, keepAliveRun_append, hrefresh, hwrite]
  rfl

end Loop

/-- The keep-alive loop of a service whose labels and statuses are JSON text, marshalled as
they are: after `{"height":1}` is pushed and its write fails, the timer's tick refreshes the
entry that was never written. -/
theorem keepAlive_failed_write_refreshed :
    (keepAliveRun (fun s : String => .ok s) "\x7b\"coin\":\"btc\"\x7d"
        (statusKey "coinserver" "btc1") ⟨"", "\x7b\x7d"⟩
        [(.push "\x7b\"height\":1\x7d", some "etcd cluster is unavailable"), (.timeout, none)]).2 =
      [(⟨"/status/coinserver/btc1",
          "\x7b\"labels\":\x7b\"coin\":\"btc\"\x7d,\"status\":\x7b\"height\":1\x7d\x7d",
          ⟨2, false, false⟩⟩, some "etcd cluster is unavailable"),
        (⟨"/status/coinserver/btc1", "", ⟨2, true, true⟩⟩, none)] :=
  keepAliveRun_refresh_after_failed_write _ _ _ _ _ _ _ _ rfl (by decide)

end Ngpool
