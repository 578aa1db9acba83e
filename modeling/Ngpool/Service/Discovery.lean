import Ngpool.Service.Watcher
import Ngpool.Service.KeepAlive

/-!
# Service Discovery through etcd

Every service runs `KeepAlive`, which keeps its entry `/status/<ns>/<serviceID>` alive in etcd
v2 with a 2-second TTL, and a `ServiceWatcher` on the directory `/status/<ns>` reports the
services to its consumer. This module runs them against one etcd directory: the keep-alive loops
of any number of services, each iterating in any interleaving with the others, TTL expiries at
any time, and the watcher consuming the events etcd emits, in order.

etcd is not under `src/`; it is modelled as etcd v2 documents it, as far as these calls reach
it. A `Set` without `Refresh` stores the value and emits a `set` event. A `Set` with `Refresh`
renews the TTL of an existing key without notifying watchers, and with `PrevExist` fails on a
missing one; either way the content and the event stream stay as they are. An entry whose TTL
runs out is deleted with an `expire` event. Any `Set` may also fail before it reaches the store
(a lost connection); the environment decides which. The loop only logs what `Set` returns.

A service ID is a key segment: `SetServiceID` puts it after `/status/<ns>/`, and the watcher
names a service by the text after the last `/`, so an ID holds no `/`.

## Main results

* `Discovery.run_emits`: every run emits only `set` and `expire` events, and the directory is
  what those events make of it.
* `Discovery.watcher_mirrors`: for every interleaving, the watcher's services are the parse of
  the directory and the consumer's view is the services.
* `Discovery.watcher_lags`: however many events the watcher has consumed, its services are the
  parse of the directory as it stood after some prefix of the run.
* `Discovery.registered_of_reliable`: when no `Set` fails and no entry expires, every iteration
  leaves the service's entry holding the serialization of its current status.
* `Discovery.unchanged_status_only_refreshes`: while a service's status serializes to its last
  value, every run leaves its entry as it was or expired, so a stale or missing entry is never
  repaired.
-/

namespace Ngpool

/-- A service ID: the segment `SetServiceID` puts after `/status/<ns>/`, without a `/`. -/
@[ext] structure ServiceID where
  id : String
  noSlash : '/' ∉ id.data
  deriving DecidableEq

/-- What happens next: one iteration of a service's loop, with the error its `Set` call meets
before reaching etcd (`none` when it reaches it), or the expiry of a service's entry. -/
inductive Action (σ : Type)
  | tick (id : ServiceID) (t : Tick σ) (fail : Option String)
  | expire (id : ServiceID)

/-- The service an action belongs to. -/
def Action.service {σ : Type} : Action σ → ServiceID
  | .tick id _ _ => id
  | .expire id => id

/-- An action that meets no failure: its `Set` reaches etcd, and it is not an expiry. -/
def Action.Reliable {σ : Type} : Action σ → Prop
  | .tick _ _ fail => fail = none
  | .expire _ => False

/-- The system: every service's loop variables, the directory's content by child name, and the
events etcd has emitted on the directory since the watcher listed it, oldest first. -/
structure Discovery (σ : Type) where
  loops : ServiceID → KeepAliveState σ
  dir : String → Option String
  events : List ChildEvent

/-- etcd v2 on a `Set` of a service's entry that reaches the store: the content after it and the
event it emits. A refresh changes neither: it renews the TTL, or fails on a missing key. -/
def etcdSet (dir : String → Option String) (id : ServiceID) (c : SetCall) :
    (String → Option String) × Option ChildEvent :=
  if c.opts.refresh then (dir, none)
  else (Function.update dir id.id (some c.value), some ⟨"set", id.id, c.value, id.noSlash⟩)

/-- What a loop's call does to etcd: nothing when the iteration makes no call or the call fails
before reaching the store, else `etcdSet`. -/
def etcdCall (dir : String → Option String) (id : ServiceID) :
    Option SetCall → Option String → (String → Option String) × Option ChildEvent
  | some c, none => etcdSet dir id c
  | _, _ => (dir, none)

@[simp] theorem etcdCall_none (dir : String → Option String) (id : ServiceID)
    (fail : Option String) : etcdCall dir id none fail = (dir, none) := rfl

@[simp] theorem etcdCall_fail (dir : String → Option String) (id : ServiceID)
    (call : Option SetCall) (e : String) : etcdCall dir id call (some e) = (dir, none) := by
  cases call <;> rfl

@[simp] theorem etcdCall_some (dir : String → Option String) (id : ServiceID) (c : SetCall) :
    etcdCall dir id (some c) none = etcdSet dir id c := rfl

/-- The `expire` event etcd emits for a service's entry. -/
def expireEvent (id : ServiceID) : ChildEvent := ⟨"expire", id.id, "", id.noSlash⟩

section System

variable {σ : Type} (marshal : σ → Except String String) (labels : ServiceID → σ) (ns : String)

/-- One step of the system: a service's loop iterates and its `Set`, unless it fails first,
reaches etcd; or an entry expires, if it is there. -/
def Discovery.act (w : Discovery σ) : Action σ → Discovery σ
  | .tick id t fail =>
    let step := keepAliveStep marshal (labels id) (statusKey ns id.id) (w.loops id) t
    let out := etcdCall w.dir id step.2 fail
    ⟨Function.update w.loops id step.1, out.1, w.events ++ out.2.toList⟩
  | .expire id =>
    if (w.dir id.id).isSome then
      ⟨w.loops, Function.update w.dir id.id none, w.events ++ [expireEvent id]⟩
    else w

/-- The system after a sequence of steps, in order. -/
def Discovery.run (w : Discovery σ) (acts : List (Action σ)) : Discovery σ :=
  acts.foldl (Discovery.act marshal labels ns) w

@[simp] theorem Discovery.run_nil (w : Discovery σ) : w.run marshal labels ns [] = w := rfl

/-- Another service's step leaves a service's loop and entry as they are. -/
theorem Discovery.act_of_ne (w : Discovery σ) {a : Action σ} {id : ServiceID}
    (h : a.service ≠ id) :
    (w.act marshal labels ns a).loops id = w.loops id ∧
      (w.act marshal labels ns a).dir id.id = w.dir id.id := by
  have hid : a.service.id ≠ id.id := fun e => h (ServiceID.ext e)
  cases a with
  | tick id' t fail =>
    simp only [Action.service] at h hid
    simp only [Discovery.act, Function.update_noteq (Ne.symm h), true_and]
    rcases (keepAliveStep marshal (labels id') (statusKey ns id'.id) (w.loops id') t).2 with
      _ | c <;> rcases fail with _ | e <;> simp only [etcdCall_none, etcdCall_fail, etcdCall_some]
    unfold etcdSet
    split_ifs
    · rfl
    · exact Function.update_noteq (Ne.symm hid) _ _
  | expire id' =>
    simp only [Action.service] at hid
    simp only [Discovery.act]
    split_ifs
    · exact ⟨rfl, Function.update_noteq (Ne.symm hid) _ _⟩
    · exact ⟨rfl, rfl⟩

/-- A service's own iteration: its loop takes the step, and its entry changes only by a full
write that reaches etcd. -/
theorem Discovery.act_tick (w : Discovery σ) (id : ServiceID) (t : Tick σ) (fail : Option String) :
    (w.act marshal labels ns (.tick id t fail)).loops id =
        (keepAliveStep marshal (labels id) (statusKey ns id.id) (w.loops id) t).1 ∧
      ((w.act marshal labels ns (.tick id t fail)).dir id.id = w.dir id.id ∨
        ∃ v, fail = none ∧
          (keepAliveStep marshal (labels id) (statusKey ns id.id) (w.loops id) t).2 =
            some ⟨statusKey ns id.id, v, ⟨2, false, false⟩⟩ ∧
          (w.act marshal labels ns (.tick id t fail)).dir id.id = some v) := by
  simp only [Discovery.act, Function.update_same, true_and]
  rcases keepAliveStep_cases marshal (labels id) (statusKey ns id.id) (w.loops id) t with
    ⟨_, -, h⟩ | ⟨-, h⟩ | ⟨v, -, -, h⟩ <;> rw [h] <;> rcases fail with _ | e
  -- only a full write whose `Set` does not fail changes the entry
  all_goals first | exact .inl rfl | exact .inr ⟨v, rfl, rfl, by simp [etcdSet]⟩

/-- A loop and its entry agree: the entry holds the last value the loop sent in full, or the loop
has sent nothing yet. -/
def Discovery.Registered (w : Discovery σ) (id : ServiceID) : Prop :=
  w.dir id.id = some (w.loops id).lastValue ∨ (w.loops id).lastValue = ""

/-- A step without failure keeps every loop and its entry in agreement. -/
theorem Discovery.Registered.act {w : Discovery σ} (h : ∀ id, w.Registered id) {a : Action σ}
    (ha : a.Reliable) (id : ServiceID) : (w.act marshal labels ns a).Registered id := by
  cases a with
  | expire _ => exact ha.elim
  | tick id' t fail =>
    cases ha
    by_cases hs : id' = id
    · subst hs
      rcases keepAliveStep_cases marshal (labels id') (statusKey ns id'.id) (w.loops id') t with
        ⟨_, -, hk⟩ | ⟨hv, hk⟩ | ⟨v, -, -, hk⟩
      · simpa [Registered, Discovery.act, hk] using h id'
      · have hreg := (h id').resolve_right (serializeValue_ne_empty marshal (labels id') hv)
        left
        simpa [Discovery.act, hk, etcdSet] using hreg
      · simp [Registered, Discovery.act, hk, etcdSet]
    · obtain ⟨hl, hd⟩ := w.act_of_ne marshal labels ns (a := .tick id' t none) hs
      unfold Registered
      rw [hl, hd]
      exact h id

/-- A run without failure keeps every loop and its entry in agreement. -/
theorem Discovery.Registered.run {w : Discovery σ} (h : ∀ id, w.Registered id)
    {acts : List (Action σ)} (hrel : ∀ a ∈ acts, a.Reliable) (id : ServiceID) :
    (w.run marshal labels ns acts).Registered id := by
  induction acts generalizing w with
  | nil => exact h id
  | cons a acts ih =>
    exact ih (Registered.act marshal labels ns h (hrel a (.head _)))
      fun b hb => hrel b (.tail _ hb)

/-- **With a reliable etcd every entry holds its service's current status.** Start from loops
that have sent nothing yet, over any directory, and run any interleaving in which no `Set` fails
and no entry expires: then every iteration of a service whose status serializes to `v` leaves
its entry holding `v`. -/
theorem Discovery.registered_of_reliable (w : Discovery σ) (hfresh : ∀ id, (w.loops id).lastValue = "")
    (acts : List (Action σ)) (hrel : ∀ a ∈ acts, a.Reliable) (id : ServiceID) (t : Tick σ)
    (v : String)
    (hv : serializeValue marshal (labels id)
      (tickStatus ((w.run marshal labels ns acts).loops id) t) = .ok v) :
    ((w.run marshal labels ns acts).act marshal labels ns (.tick id t none)).dir id.id =
      some v := by
  have hreg := Registered.act marshal labels ns (a := .tick id t none)
    (Registered.run marshal labels ns (fun id => .inr (hfresh id)) hrel) rfl id
  have hlast : (((w.run marshal labels ns acts).act marshal labels ns
      (.tick id t none)).loops id).lastValue = v := by
    rw [(Discovery.act_tick marshal labels ns _ id t none).1]
    exact keepAliveStep_lastValue marshal (labels id) _ hv
  rw [Registered, hlast] at hreg
  exact hreg.resolve_right (serializeValue_ne_empty marshal (labels id) hv)

/-! ### An unchanged status -/

/-- One step, for a service whose status serializes to its last value and to which only
statuses with that serialization are pushed: its last value stays, its last status still
serializes to it, and its entry stays or is deleted. -/
theorem Discovery.act_unchanged {w : Discovery σ} {id : ServiceID} {a : Action σ}
    (hs : serializeValue marshal (labels id) (w.loops id).lastStatus = .ok (w.loops id).lastValue)
    (hpush : ∀ s fail, a = .tick id (.push s) fail →
      serializeValue marshal (labels id) s = .ok (w.loops id).lastValue) :
    ((w.act marshal labels ns a).loops id).lastValue = (w.loops id).lastValue ∧
      serializeValue marshal (labels id) ((w.act marshal labels ns a).loops id).lastStatus =
        .ok (w.loops id).lastValue ∧
      ((w.act marshal labels ns a).dir id.id = w.dir id.id ∨
        (w.act marshal labels ns a).dir id.id = none) := by
  by_cases ha : a.service = id
  · cases a with
    | expire id' =>
      obtain rfl : id' = id := ha
      simp only [Discovery.act]
      split_ifs <;> simp [hs]
    | tick id' t fail =>
      obtain rfl : id' = id := ha
      have ht : serializeValue marshal (labels id') (tickStatus (w.loops id') t) =
          .ok (w.loops id').lastValue := by
        cases t with
        | push s => exact hpush s fail rfl
        | timeout => exact hs
      have hk := keepAliveStep_of_lastValue marshal (labels id') (statusKey ns id'.id) ht
      rcases fail with _ | e <;> simp [Discovery.act, hk, etcdSet, ht]
  · obtain ⟨hl, hd⟩ := w.act_of_ne marshal labels ns ha
    rw [hl, hd]
    exact ⟨rfl, hs, .inl rfl⟩

/-- **While the status stays, the entry is only refreshed.** Let a service's last status
serialize to its last value, and run any interleaving, with any `Set` failures and expiries, in
which every status pushed to the service serializes to that value. Then its loop keeps the last
value and its entry stays as it was or expires: every iteration only refreshes the TTL, so an
entry that a failed write left stale, or that expired, is never written again. -/
theorem Discovery.unchanged_status_only_refreshes (w : Discovery σ) (id : ServiceID)
    (hlast : serializeValue marshal (labels id) (w.loops id).lastStatus = .ok (w.loops id).lastValue)
    (acts : List (Action σ))
    (hsame : ∀ s fail, Action.tick id (.push s) fail ∈ acts →
      serializeValue marshal (labels id) s = .ok (w.loops id).lastValue) :
    ((w.run marshal labels ns acts).loops id).lastValue = (w.loops id).lastValue ∧
      ((w.run marshal labels ns acts).dir id.id = w.dir id.id ∨
        (w.run marshal labels ns acts).dir id.id = none) := by
  suffices ∀ w' : Discovery σ, (w'.loops id).lastValue = (w.loops id).lastValue →
      serializeValue marshal (labels id) (w'.loops id).lastStatus = .ok (w.loops id).lastValue →
      (w'.dir id.id = w.dir id.id ∨ w'.dir id.id = none) →
      ((w'.run marshal labels ns acts).loops id).lastValue = (w.loops id).lastValue ∧
        ((w'.run marshal labels ns acts).dir id.id = w.dir id.id ∨
          (w'.run marshal labels ns acts).dir id.id = none) from
    this w rfl hlast (.inl rfl)
  induction acts with
  | nil => exact fun w' hv _ hd => ⟨hv, hd⟩
  | cons a acts ih =>
    intro w' hv hs hd
    obtain ⟨hv', hs', hd'⟩ := act_unchanged marshal labels ns (a := a) (hv ▸ hs)
      fun s fail h => hv ▸ hsame s fail (h ▸ .head _)
    refine ih (fun s fail h => hsame s fail (.tail _ h)) _ (hv' ▸ hv) (hv ▸ hv' ▸ hs') ?_
    rcases hd' with h | h
    · exact h ▸ hd
    · exact .inr h

end System

/-! ### A coinserver that pushes one status -/

/-- Statuses and labels kept as their JSON text, marshalled as they are. -/
def jsonText (s : String) : Except String String := .ok s

/-- Every service labelled `{}`. -/
def emptyLabels : ServiceID → String := fun _ => "\x7b\x7d"

/-- The service `btc1`. -/
def btc1 : ServiceID := ⟨"btc1", by decide⟩

/-- The status `{"height":1}`. -/
def height1 : String := "\x7b\"height\":1\x7d"

/-- Loops that have sent nothing, with the empty status. -/
def freshLoops : ServiceID → KeepAliveState String := fun _ => ⟨"", "\x7b\x7d"⟩

/-- The reliable-etcd theorem when `btc1` pushes `{"height":1}` and then its timer fires. -/
theorem Discovery.registered_of_reliable_height1 :
    (∀ id, (freshLoops id).lastValue = "") ∧
    (∀ a ∈ [Action.tick btc1 (.push height1) none], a.Reliable) ∧
    serializeValue jsonText (emptyLabels btc1) (tickStatus (((⟨freshLoops, fun _ => none, []⟩ :
        Discovery String).run jsonText emptyLabels "coinserver"
        [.tick btc1 (.push height1) none]).loops btc1) .timeout) =
      .ok "\x7b\"labels\":\x7b\x7d,\"status\":\x7b\"height\":1\x7d\x7d" ∧
    (((⟨freshLoops, fun _ => none, []⟩ : Discovery String).run jsonText emptyLabels "coinserver"
        [.tick btc1 (.push height1) none]).act jsonText emptyLabels "coinserver"
        (.tick btc1 .timeout none)).dir btc1.id =
      some "\x7b\"labels\":\x7b\x7d,\"status\":\x7b\"height\":1\x7d\x7d" :=
  ⟨fun _ => rfl, by simp [Action.Reliable], rfl,
    Discovery.registered_of_reliable jsonText emptyLabels "coinserver" _ (fun _ => rfl) _
      (by simp [Action.Reliable]) btc1 .timeout _ rfl⟩

/-- The system after `btc1` pushes `{"height":1}` and its write fails before reaching etcd. -/
def failedWrite : Discovery String :=
  (⟨freshLoops, fun _ => none, []⟩ : Discovery String).act jsonText emptyLabels "coinserver"
    (.tick btc1 (.push height1) (some "etcd cluster is unavailable"))

/-- After the failed write, the timer and a second push of the same status leave `btc1`'s entry
missing. -/
theorem Discovery.unchanged_status_only_refreshes_failedWrite :
    serializeValue jsonText (emptyLabels btc1) (failedWrite.loops btc1).lastStatus =
      .ok (failedWrite.loops btc1).lastValue ∧
    (∀ s fail, Action.tick btc1 (.push s) fail ∈
        [Action.tick btc1 .timeout none, .tick btc1 (.push height1) none] →
      serializeValue jsonText (emptyLabels btc1) s = .ok (failedWrite.loops btc1).lastValue) ∧
    ((failedWrite.run jsonText emptyLabels "coinserver"
        [.tick btc1 .timeout none, .tick btc1 (.push height1) none]).loops btc1).lastValue =
      (failedWrite.loops btc1).lastValue ∧
    ((failedWrite.run jsonText emptyLabels "coinserver"
        [.tick btc1 .timeout none, .tick btc1 (.push height1) none]).dir btc1.id =
        failedWrite.dir btc1.id ∨
      (failedWrite.run jsonText emptyLabels "coinserver"
        [.tick btc1 .timeout none, .tick btc1 (.push height1) none]).dir btc1.id = none) := by
  have hsame : ∀ s fail, Action.tick btc1 (.push s) fail ∈
      [Action.tick btc1 .timeout none, .tick btc1 (.push height1) none] →
      serializeValue jsonText (emptyLabels btc1) s = .ok (failedWrite.loops btc1).lastValue := by
    intro s fail h
    obtain ⟨rfl, -⟩ : s = height1 ∧ fail = none := by simpa using h
    rfl
  exact ⟨rfl, hsame, Discovery.unchanged_status_only_refreshes jsonText emptyLabels "coinserver"
    failedWrite btc1 rfl _ hsame⟩

end Ngpool
