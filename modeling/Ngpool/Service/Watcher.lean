import Mathlib.Data.List.Nodup
import Ngpool.Go

/-!
# The Service Watcher

`ServiceWatcher` mirrors the etcd v2 directory `/status/<namespace>` in a map of service
statuses and reports every change on a channel of `ServiceStatusUpdate`s. It first lists the
directory with a recursive `Get`, stores each child and sends `added` for it; then, for each
watch event, `set` and `update` store the parsed value and send `added` or `updated`, `expire`
deletes a known service and sends `removed`, and every other action is ignored.

A service is named by the text after the last `/` of its key, and its status is the JSON
decoding of the value, left here as a parameter `parse`. The etcd side is modelled as far as
the watcher reads it: a listing of the directory, whose children have distinct names, and the
events, each an action on a node. The channel holds 1000 updates, and nobody can read it before
`ServiceWatcher` returns, so a listing of more than 1000 children blocks forever.

## Main results

* `watchRun_preserves`: a property kept by every update the services allow holds after every
  run; the run invariants below follow from it.
* `WatchInv.watchRun`: every run keeps the invariant: the consumer's view is the services map,
  the services are the IDs whose last update is `added` or `updated`, and every update is well
  formed.
* `serviceWatcher_updates_wellFormed`: the same for every run that `ServiceWatcher` starts.
* `serviceWatcher_mirrors_dir`: a listing over 1000 children blocks and a missing directory
  panics; after a return the view is the services map; and with only `set`, `update` and
  `expire` events on children the services map is the parse of the directory.
* `serviceWatcher_misses_create`: one `create` event leaves the services behind the directory.
* `serviceWatcher_removed_status_nil`: every `removed` update is sent for an ID the consumer's
  view holds with a status, and carries `none`.
-/

namespace Ngpool

/-- An etcd v2 node as the watcher reads it. -/
structure Node where
  key : String
  value : String

/-- `key[strings.LastIndexByte(key, '/')+1:]`: the text after the last `/`, or the whole key when
it has none (`/` is one byte in UTF-8, so bytes and characters agree here). -/
def lastSegment (key : String) : String :=
  ⟨(key.data.reverse.takeWhile (· != '/')).reverse⟩

/-- The last segment of a child key is the child's name. -/
theorem lastSegment_child (dir id : String) (h : '/' ∉ id.data) :
    lastSegment (dir ++ "/" ++ id) = id := by
  have hid : ∀ c ∈ id.data.reverse, (c != '/') = true := fun c hc => by
    simp only [List.mem_reverse] at hc
    simpa using fun e : c = '/' => h (e ▸ hc)
  have hkey : (dir ++ "/" ++ id).data = dir.data ++ ['/'] ++ id.data := rfl
  show String.mk _ = id
  rw [hkey, List.reverse_append, List.takeWhile_append_of_pos hid]
  simp

/-- A `ServiceStatusUpdate`; `status` is `none` for the nil pointer a removal carries. -/
structure ServiceStatusUpdate (σ : Type) where
  serviceType : String
  serviceID : String
  status : Option σ
  action : String

/-- The children of the watched directory as the recursive `Get` lists them, in etcd's order:
names without `/`, pairwise distinct, each with its value. -/
structure Listing where
  children : List (String × String)
  nodup : (children.map Prod.fst).Nodup
  noSlash : ∀ c ∈ children, '/' ∉ c.1.data

/-- The node of a child of `/status/<ns>`. -/
def childNode (ns : String) (c : String × String) : Node := ⟨"/status/" ++ ns ++ "/" ++ c.1, c.2⟩

/-- The directory content a listing shows, by child name. -/
def Listing.content (l : Listing) (id : String) : Option String := l.children.lookup id

/-- How the recursive `Get` of the directory ended. -/
inductive GetResult
  | ok (listing : Listing)
  | keyNotFound
  | error (msg : String)

/-- The watcher's state: its services map and the updates sent so far, oldest first. -/
structure WatchState (σ : Type) where
  services : String → Option σ
  sent : List (ServiceStatusUpdate σ)

/-- A watch event: the action and the node it carries. -/
structure WatchEvent where
  action : String
  node : Node

/-- The capacity of the `updates` channel. -/
def updatesCapacity : Nat := 1000

section Watcher

variable {σ : Type} (parse : String → σ) (ns : String)

/-- `parseNode`: the service ID and the decoded status of a node. -/
def parseNode (n : Node) : String × σ := (lastSegment n.key, parse n.value)

/-- Storing one listed node and sending `added` for it. -/
def snapshotStep (st : WatchState σ) (n : Node) : WatchState σ :=
  let (serviceID, serviceStatus) := parseNode parse n
  ⟨Function.update st.services serviceID (some serviceStatus),
    st.sent ++ [⟨ns, serviceID, some serviceStatus, "added"⟩]⟩

/-- The state after the listing: every child stored, with one `added` each. -/
def snapshot (l : Listing) : WatchState σ :=
  (l.children.map (childNode ns)).foldl (snapshotStep parse ns) ⟨fun _ => none, []⟩

/-- `ServiceWatcher` up to its return: `none` when it blocks on the full channel. When the
directory is missing it is created, and then `res.Index` reads the nil response of the failed
`Get`. -/
def serviceWatcher (get : GetResult) (setDir : Option String) :
    Option (Except Exit (WatchState σ)) :=
  match get with
  | .keyNotFound =>
    match setDir with
    | some err => some (.error (.error err))
    | none => some (.error nilDereferencePanic)
  | .error msg => some (.error (.error msg))
  | .ok l =>
    if updatesCapacity < l.children.length then none else some (.ok (snapshot parse ns l))

/-- One iteration of the watch loop: the new services map and the update sent, if any. -/
def watchStep (services : String → Option σ) (e : WatchEvent) :
    (String → Option σ) × Option (ServiceStatusUpdate σ) :=
  let (serviceID, serviceStatus) := parseNode parse e.node
  let known := (services serviceID).isSome
  if e.action = "expire" then
    if known then
      (Function.update services serviceID none, some ⟨ns, serviceID, none, "removed"⟩)
    else (services, none)
  else if e.action = "set" ∨ e.action = "update" then
    (Function.update services serviceID (some serviceStatus),
      some ⟨ns, serviceID, some serviceStatus, if known then "updated" else "added"⟩)
  else (services, none)

/-- The watch loop on the whole state. -/
def watchLoop (st : WatchState σ) (e : WatchEvent) : WatchState σ :=
  ⟨(watchStep parse ns st.services e).1, st.sent ++ (watchStep parse ns st.services e).2.toList⟩

/-- The watch loop over a sequence of events. -/
def watchRun (st : WatchState σ) (evs : List WatchEvent) : WatchState σ :=
  evs.foldl (watchLoop parse ns) st

end Watcher

/-! ### The consumer's side of the channel -/

section Updates

variable {σ : Type}

/-- A consumer's view after one update: `added` and `updated` store the status, `removed`
deletes the ID. -/
def applyUpdate (view : String → Option σ) (u : ServiceStatusUpdate σ) : String → Option σ :=
  if u.action = "removed" then Function.update view u.serviceID none
  else if u.action = "added" ∨ u.action = "updated" then Function.update view u.serviceID u.status
  else view

/-- The view a consumer builds from the updates, oldest first. -/
def consumerView (ups : List (ServiceStatusUpdate σ)) : String → Option σ :=
  ups.foldl applyUpdate fun _ => none

/-- Marks the ID of `u` live when `u` is `added` or `updated`, and not live otherwise. -/
def liveAfter (live : String → Bool) (u : ServiceStatusUpdate σ) : String → Bool :=
  Function.update live u.serviceID (u.action = "added" || u.action = "updated")

/-- The IDs whose last update is `added` or `updated`. -/
def liveIds (ups : List (ServiceStatusUpdate σ)) : String → Bool :=
  ups.foldl liveAfter fun _ => false

/-- An update well formed after the live IDs `live`: `added` for an ID not live, `updated` and
`removed` for a live one. -/
def WellFormedAt (live : String → Bool) (u : ServiceStatusUpdate σ) : Prop :=
  (u.action = "added" → live u.serviceID = false) ∧
    (u.action = "updated" ∨ u.action = "removed" → live u.serviceID = true)

/-- Every update of the list is well formed after those before it, from the live IDs `live`. -/
def WellFormedFrom : (String → Bool) → List (ServiceStatusUpdate σ) → Prop
  | _, [] => True
  | live, u :: us => WellFormedAt live u ∧ WellFormedFrom (liveAfter live u) us

/-- A sequence of updates is well formed from no live ID. -/
def WellFormed (ups : List (ServiceStatusUpdate σ)) : Prop := WellFormedFrom (fun _ => false) ups

theorem wellFormedFrom_append_singleton (live : String → Bool) (ups : List (ServiceStatusUpdate σ))
    (u : ServiceStatusUpdate σ) :
    WellFormedFrom live (ups ++ [u]) ↔
      WellFormedFrom live ups ∧ WellFormedAt (ups.foldl liveAfter live) u := by
  induction ups generalizing live with
  | nil => simp [WellFormedFrom]
  | cons v ups ih => simp [WellFormedFrom, ih, and_assoc]

theorem liveIds_append_singleton (ups : List (ServiceStatusUpdate σ)) (u : ServiceStatusUpdate σ) :
    liveIds (ups ++ [u]) = liveAfter (liveIds ups) u := by
  simp [liveIds]

/-- A `removed` update after the view `view` is sent for an ID the view holds, and carries no
status. -/
def RemovalAt (view : String → Option σ) (u : ServiceStatusUpdate σ) : Prop :=
  u.action = "removed" → (view u.serviceID).isSome ∧ u.status = none

/-- Every update of the list is a `RemovalAt` the view built from those before it, from the view
`view`. -/
def RemovalsFrom : (String → Option σ) → List (ServiceStatusUpdate σ) → Prop
  | _, [] => True
  | view, u :: us => RemovalAt view u ∧ RemovalsFrom (applyUpdate view u) us

theorem removalsFrom_append (view : String → Option σ) (pre post : List (ServiceStatusUpdate σ)) :
    RemovalsFrom view (pre ++ post) ↔
      RemovalsFrom view pre ∧ RemovalsFrom (pre.foldl applyUpdate view) post := by
  induction pre generalizing view with
  | nil => simp [RemovalsFrom]
  | cons v pre ih => simp [RemovalsFrom, ih, and_assoc]

/-- A list of `added` updates holds no removal. -/
theorem removalsFrom_of_added (view : String → Option σ) (ups : List (ServiceStatusUpdate σ))
    (h : ∀ u ∈ ups, u.action = "added") : RemovalsFrom view ups := by
  induction ups generalizing view with
  | nil => trivial
  | cons u ups ih =>
    exact ⟨fun hr => absurd (hr ▸ h u (.head _)) (by decide),
      ih _ fun v hv => h v (.tail _ hv)⟩

/-- What a sent update can be, given the services when it is sent. -/
def Emits (services : String → Option σ) (u : ServiceStatusUpdate σ) : Prop :=
  (u.action = "added" ∧ services u.serviceID = none ∧ u.status.isSome) ∨
  (u.action = "updated" ∧ (services u.serviceID).isSome ∧ u.status.isSome) ∨
  (u.action = "removed" ∧ (services u.serviceID).isSome ∧ u.status = none)

theorem Emits.removalAt {services : String → Option σ} {u : ServiceStatusUpdate σ}
    (h : Emits services u) : RemovalAt services u := fun hr => by
  rcases h with ⟨ha, -⟩ | ⟨ha, -⟩ | ⟨-, hs⟩
  · exact absurd (ha.symm.trans hr) (by decide)
  · exact absurd (ha.symm.trans hr) (by decide)
  · exact hs

/-- **The watcher's invariant.** The consumer's view is the services map, the services are the
live IDs, and the updates sent are well formed. -/
structure WatchInv (st : WatchState σ) : Prop where
  view : consumerView st.sent = st.services
  live : ∀ id, liveIds st.sent id = (st.services id).isSome
  wellFormed : WellFormed st.sent

theorem WatchInv.init : WatchInv (⟨fun _ => none, []⟩ : WatchState σ) :=
  ⟨rfl, fun _ => rfl, trivial⟩

/-- Sending an update the services allow, and applying it, keeps the invariant. -/
theorem WatchInv.emit {st : WatchState σ} (h : WatchInv st) (u : ServiceStatusUpdate σ)
    (hu : Emits st.services u) : WatchInv ⟨applyUpdate st.services u, st.sent ++ [u]⟩ := by
  have hview : consumerView (st.sent ++ [u]) = applyUpdate st.services u := by
    simp [consumerView, ← h.view]
  refine ⟨hview, fun id => ?_, ?_⟩
  · rw [liveIds_append_singleton]
    simp only [liveAfter, applyUpdate]
    rcases eq_or_ne id u.serviceID with rfl | e <;>
      rcases hu with ⟨ha, _, hs⟩ | ⟨ha, _, hs⟩ | ⟨ha, _, hs⟩ <;> simp_all [h.live]
  · unfold WellFormed
    rw [wellFormedFrom_append_singleton]
    refine ⟨h.wellFormed, ?_, ?_⟩ <;> rw [← liveIds, h.live] <;>
      rcases hu with ⟨ha, hs, -⟩ | ⟨ha, hs, -⟩ | ⟨ha, hs, -⟩ <;> simp_all

end Updates

/-! ### The watcher keeps the invariant -/

section Runs

variable {σ : Type} (parse : String → σ) (ns : String)

/-- **One iteration of the watch loop** leaves the services as they are and sends nothing, or
sends one update the services allow and applies it to them. -/
theorem watchStep_cases (services : String → Option σ) (e : WatchEvent) :
    watchStep parse ns services e = (services, none) ∨
      ∃ u, Emits services u ∧ watchStep parse ns services e = (applyUpdate services u, some u) := by
  unfold watchStep
  generalize parseNode parse e.node = p
  obtain ⟨id, status⟩ := p
  by_cases hx : e.action = "expire"
  · by_cases hk : (services id).isSome
    · exact .inr ⟨⟨ns, id, none, "removed"⟩, .inr (.inr ⟨rfl, hk, rfl⟩), by simp [hx, hk, applyUpdate]⟩
    · exact .inl (by simp [hx, hk])
  by_cases hs : e.action = "set" ∨ e.action = "update"
  · by_cases hk : (services id).isSome
    · exact .inr ⟨⟨ns, id, some status, "updated"⟩, .inr (.inl ⟨rfl, hk, rfl⟩),
        by simp [hx, hs, hk, applyUpdate]⟩
    · exact .inr ⟨⟨ns, id, some status, "added"⟩, .inl ⟨rfl, by simpa using hk, rfl⟩,
        by simp [hx, hs, hk, applyUpdate]⟩
  · exact .inl (by simp [hx, hs])

/-- **What a run can do**: a property of the state that sending and applying every update the
services allow keeps holds after every run of the watch loop. -/
theorem watchRun_preserves (P : WatchState σ → Prop)
    (hstep : ∀ st u, P st → Emits st.services u → P ⟨applyUpdate st.services u, st.sent ++ [u]⟩)
    {st : WatchState σ} (h : P st) (evs : List WatchEvent) : P (watchRun parse ns st evs) := by
  induction evs generalizing st with
  | nil => exact h
  | cons e evs ih =>
    apply ih
    rcases watchStep_cases parse ns st.services e with he | ⟨u, hu, he⟩ <;>
      simp only [watchLoop, he, Option.toList_none, Option.toList_some, List.append_nil]
    · exact h
    · exact hstep st u h hu

/-- Every run of the watch loop keeps the invariant. -/
theorem WatchInv.watchRun {st : WatchState σ} (h : WatchInv st) (evs : List WatchEvent) :
    WatchInv (watchRun parse ns st evs) :=
  watchRun_preserves parse ns WatchInv (fun _ u h hu => h.emit u hu) h evs

/-- Every run of the watch loop keeps every removal sent for an ID the consumer's view holds, with
no status. -/
theorem removalsFrom_watchRun {st : WatchState σ} (h : WatchInv st)
    (hr : RemovalsFrom (fun _ => none) st.sent) (evs : List WatchEvent) :
    RemovalsFrom (fun _ => none) (watchRun parse ns st evs).sent :=
  (watchRun_preserves parse ns (fun st => WatchInv st ∧ RemovalsFrom (fun _ => none) st.sent)
    (fun st u ⟨h, hr⟩ hu => ⟨h.emit u hu, (removalsFrom_append _ _ _).mpr
      ⟨hr, show RemovalAt (consumerView st.sent) u from h.view ▸ hu.removalAt, trivial⟩⟩)
    ⟨h, hr⟩ evs).2

/-- The services after a `set` or `update` event store its parse, and after an `expire` event they
lose its ID; other events change nothing. -/
theorem watchLoop_services (st : WatchState σ) (e : WatchEvent) :
    (watchLoop parse ns st e).services =
      if e.action = "expire" then Function.update st.services (parseNode parse e.node).1 none
      else if e.action = "set" ∨ e.action = "update" then
        Function.update st.services (parseNode parse e.node).1 (some (parseNode parse e.node).2)
      else st.services := by
  unfold watchLoop watchStep
  generalize parseNode parse e.node = p
  obtain ⟨id, status⟩ := p
  by_cases hx : e.action = "expire"
  · by_cases hk : (st.services id).isSome
    · simp [hx, hk]
    · funext id'
      rcases eq_or_ne id' id with rfl | ne <;> simp_all
  · split_ifs <;> rfl

theorem lookup_cons_of_ne {a : String} {c : String × String} (l : List (String × String))
    (h : a ≠ c.1) : (c :: l).lookup a = l.lookup a := by
  obtain ⟨k, b⟩ := c
  simp [List.lookup_cons, beq_eq_false_iff_ne.mpr h]

/-- Listing fresh children one by one keeps the invariant and stores each child's parse. -/
theorem snapshotStep_foldl (cs : List (String × String)) (hnd : (cs.map Prod.fst).Nodup)
    (hs : ∀ c ∈ cs, '/' ∉ c.1.data) {st : WatchState σ} (h : WatchInv st)
    (hfresh : ∀ c ∈ cs, st.services c.1 = none) :
    WatchInv ((cs.map (childNode ns)).foldl (snapshotStep parse ns) st) ∧
      ∀ id, ((cs.map (childNode ns)).foldl (snapshotStep parse ns) st).services id =
        ((cs.lookup id).map parse).or (st.services id) := by
  induction cs generalizing st with
  | nil => exact ⟨h, fun _ => rfl⟩
  | cons c cs ih =>
    obtain ⟨hc, hnd⟩ := List.nodup_cons.mp hnd
    let u : ServiceStatusUpdate σ := ⟨ns, c.1, some (parse c.2), "added"⟩
    have hstep : snapshotStep parse ns st (childNode ns c) = ⟨applyUpdate st.services u, st.sent ++ [u]⟩ := by
      simp [snapshotStep, parseNode, childNode, lastSegment_child _ _ (hs c (.head _)), applyUpdate, u]
    have hne : ∀ c' ∈ cs, c'.1 ≠ c.1 := fun c' h' e => hc (e ▸ List.mem_map_of_mem _ h')
    obtain ⟨hinv, hsvc⟩ := ih hnd (fun c' h' => hs c' (.tail _ h'))
      (h.emit u (.inl ⟨rfl, hfresh c (.head _), rfl⟩))
      (fun c' h' => by simp [applyUpdate, u, hne c' h', hfresh c' (.tail _ h')])
    simp only [List.map_cons, List.foldl_cons, hstep]
    refine ⟨hinv, fun id => ?_⟩
    rw [hsvc]
    by_cases e : id = c.1
    · subst e
      have hnone : cs.lookup c.1 = none :=
        List.lookup_eq_none_iff.mpr fun p hp => bne_iff_ne.mpr fun e => hc (e ▸ List.mem_map_of_mem _ hp)
      have hself : (c :: cs).lookup c.1 = some c.2 := List.lookup_cons_self
      simp [hnone, hself, applyUpdate, u]
    · simp [lookup_cons_of_ne cs e, e, applyUpdate, u]

/-- The listing leaves the invariant and stores the parse of every child. -/
theorem snapshot_spec (l : Listing) :
    WatchInv (snapshot parse ns l) ∧
      (snapshot parse ns l).services = fun id => (l.content id).map parse := by
  obtain ⟨hinv, hsvc⟩ :=
    snapshotStep_foldl parse ns l.children l.nodup l.noSlash WatchInv.init fun _ _ => rfl
  exact ⟨hinv, funext fun id => by simpa [Listing.content] using hsvc id⟩

/-- Listing nodes sends one `added` update per node, in order. -/
theorem foldl_snapshotStep_sent (nodes : List Node) (st : WatchState σ) :
    (nodes.foldl (snapshotStep parse ns) st).sent =
      st.sent ++ nodes.map fun n => ⟨ns, lastSegment n.key, some (parse n.value), "added"⟩ := by
  induction nodes generalizing st with
  | nil => simp
  | cons n nodes ih => simp [ih, snapshotStep, parseNode]

/-- The listing sends `added` updates only. -/
theorem snapshot_sent_added (l : Listing) :
    ∀ u ∈ (snapshot parse ns l).sent, u.action = "added" := by
  simp only [snapshot, foldl_snapshotStep_sent, List.nil_append, List.mem_map]
  rintro u ⟨n, -, rfl⟩
  rfl

/-- `ServiceWatcher` returns exactly when the listing succeeds and fits in the channel, and then
with the listed state. -/
theorem serviceWatcher_eq_ok (get : GetResult) (setDir : Option String) (st : WatchState σ) :
    serviceWatcher parse ns get setDir = some (.ok st) ↔
      ∃ l, get = .ok l ∧ l.children.length ≤ updatesCapacity ∧ st = snapshot parse ns l := by
  unfold serviceWatcher
  split
  · split <;> simp
  · simp
  · rename_i l
    split_ifs with hl
    · simp [hl]
    · simp only [Option.some.injEq, Except.ok.injEq, GetResult.ok.injEq, exists_eq_left']
      exact ⟨fun h => ⟨by omega, h.symm⟩, fun h => h.2.symm⟩

/-- What one watch event sends is allowed by the services it meets. -/
theorem watchStep_emits (services : String → Option σ) (e : WatchEvent)
    (u : ServiceStatusUpdate σ) (hu : (watchStep parse ns services e).2 = some u) :
    Emits services u := by
  rcases watchStep_cases parse ns services e with he | ⟨v, hv, he⟩ <;> rw [he] at hu
  · cases hu
  · exact Option.some.inj hu ▸ hv

/-- **The updates `ServiceWatcher` sends are well formed.** After the listing and every sequence
of events: each update sent, the listing's included, is well formed after those before it; the
services are the IDs whose last update is `added` or `updated`; and the next update is `added`
only for an ID not in the services, `updated` and `removed` only for one in them. -/
theorem serviceWatcher_updates_wellFormed (get : GetResult) (setDir : Option String)
    (st : WatchState σ) (hst : serviceWatcher parse ns get setDir = some (.ok st))
    (evs : List WatchEvent) :
    WellFormed (watchRun parse ns st evs).sent ∧
      (∀ id, ((watchRun parse ns st evs).services id).isSome =
        liveIds (watchRun parse ns st evs).sent id) ∧
      ∀ e u, (watchStep parse ns (watchRun parse ns st evs).services e).2 = some u →
        Emits (watchRun parse ns st evs).services u := by
  obtain ⟨l, -, -, rfl⟩ := (serviceWatcher_eq_ok parse ns get setDir st).mp hst
  have h := (snapshot_spec parse ns l).1.watchRun parse ns evs
  exact ⟨h.wellFormed, fun id => (h.live id).symm, watchStep_emits parse ns _⟩

/-- **Every removal `ServiceWatcher` sends carries a nil status.** After the listing and every
sequence of events, a `removed` update is sent only for an ID that the updates before it leave
with a status in the consumer's view, the status of its last `added` or `updated`; and the update
carries `none` in its place. -/
theorem serviceWatcher_removed_status_nil (get : GetResult) (setDir : Option String)
    (st : WatchState σ) (hst : serviceWatcher parse ns get setDir = some (.ok st))
    (evs : List WatchEvent) (pre post : List (ServiceStatusUpdate σ)) (u : ServiceStatusUpdate σ)
    (hsent : (watchRun parse ns st evs).sent = pre ++ u :: post) (hu : u.action = "removed") :
    (consumerView pre u.serviceID).isSome ∧ u.status = none := by
  obtain ⟨l, -, -, rfl⟩ := (serviceWatcher_eq_ok parse ns get setDir st).mp hst
  have hr := removalsFrom_watchRun parse ns (snapshot_spec parse ns l).1
    (removalsFrom_of_added _ _ (snapshot_sent_added parse ns l)) evs
  rw [hsent, removalsFrom_append] at hr
  exact hr.2.1 hu

end Runs

/-! ### The services against the directory -/

/-- A watch event on a child of the directory: the action, the child's name and the value. -/
structure ChildEvent where
  action : String
  id : String
  value : String
  noSlash : '/' ∉ id.data

/-- The watch event of a child event of `/status/<ns>`. -/
def ChildEvent.toWatchEvent (ns : String) (e : ChildEvent) : WatchEvent :=
  ⟨e.action, childNode ns (e.id, e.value)⟩

/-- The etcd v2 effect of an event on the directory: `set`, `create`, `update` and
`compareAndSwap` write the value; `delete`, `compareAndDelete` and `expire` remove the key. -/
def dirStep (dir : String → Option String) (e : ChildEvent) : String → Option String :=
  if e.action = "set" ∨ e.action = "create" ∨ e.action = "update" ∨ e.action = "compareAndSwap" then
    Function.update dir e.id (some e.value)
  else if e.action = "delete" ∨ e.action = "compareAndDelete" ∨ e.action = "expire" then
    Function.update dir e.id none
  else dir

/-- The directory after a sequence of events. -/
def dirRun (dir : String → Option String) (evs : List ChildEvent) : String → Option String :=
  evs.foldl dirStep dir

section Mirror

variable {σ : Type} (parse : String → σ) (ns : String)

/-- A `set`, `update` or `expire` event on a child keeps the services the parse of the
directory. -/
theorem watchLoop_mirrors (st : WatchState σ) (dir : String → Option String) (e : ChildEvent)
    (hst : st.services = fun id => (dir id).map parse)
    (he : e.action = "set" ∨ e.action = "update" ∨ e.action = "expire") :
    (watchLoop parse ns st (e.toWatchEvent ns)).services = fun id => (dirStep dir e id).map parse := by
  have hid : (parseNode parse (e.toWatchEvent ns).node) = (e.id, parse e.value) := by
    simp [parseNode, ChildEvent.toWatchEvent, childNode, lastSegment_child _ _ e.noSlash]
  rw [watchLoop_services, hid, hst]
  funext id
  rcases eq_or_ne id e.id with rfl | ne <;>
    rcases he with h | h | h <;> simp [dirStep, ChildEvent.toWatchEvent, h, *]

/-- A run of `set`, `update` and `expire` events on children keeps the services the parse of the
directory. -/
theorem watchRun_mirrors (evs : List ChildEvent)
    (hact : ∀ e ∈ evs, e.action = "set" ∨ e.action = "update" ∨ e.action = "expire")
    (st : WatchState σ) (dir : String → Option String)
    (hst : st.services = fun id => (dir id).map parse) :
    (watchRun parse ns st (evs.map (ChildEvent.toWatchEvent ns))).services =
      fun id => (dirRun dir evs id).map parse := by
  induction evs generalizing st dir with
  | nil => exact hst
  | cons e evs ih =>
    exact ih (fun e' h' => hact e' (.tail _ h')) _ _
      (watchLoop_mirrors parse ns st dir e hst (hact e (.head _)))

/-- **What `ServiceWatcher` mirrors.** A listing of more than 1000 children blocks on the
channel, and a missing directory is created and then read through the nil response of the
failed `Get`. When `ServiceWatcher` returns, the consumer's view is the services map after every
sequence of events. When the listing fits and every event on a child is `set`, `update` or
`expire`, it returns, and after the events the services map is the parse of the directory. -/
theorem serviceWatcher_mirrors_dir :
    (∀ (l : Listing) (setDir : Option String), updatesCapacity < l.children.length →
      serviceWatcher parse ns (.ok l) setDir = none) ∧
    serviceWatcher parse ns .keyNotFound none = some (.error nilDereferencePanic) ∧
    (∀ get setDir st, serviceWatcher parse ns get setDir = some (.ok st) → ∀ evs,
      consumerView (watchRun parse ns st evs).sent = (watchRun parse ns st evs).services) ∧
    ∀ (l : Listing) (setDir : Option String) (evs : List ChildEvent),
      l.children.length ≤ updatesCapacity →
      (∀ e ∈ evs, e.action = "set" ∨ e.action = "update" ∨ e.action = "expire") →
      ∃ st, serviceWatcher parse ns (.ok l) setDir = some (.ok st) ∧
        (watchRun parse ns st (evs.map (ChildEvent.toWatchEvent ns))).services =
          fun id => (dirRun l.content evs id).map parse := by
  refine ⟨fun l setDir hl => by simp [serviceWatcher, hl], rfl, fun get setDir st hst evs => ?_,
    fun l setDir evs hl hact => ⟨_, (serviceWatcher_eq_ok parse ns _ _ _).mpr ⟨l, rfl, hl, rfl⟩,
      watchRun_mirrors parse ns evs hact _ _ (snapshot_spec parse ns l).2⟩⟩
  obtain ⟨l, -, -, rfl⟩ := (serviceWatcher_eq_ok parse ns get setDir st).mp hst
  exact ((snapshot_spec parse ns l).1.watchRun parse ns evs).view

/-- A `create` event writing the empty value to the child `a`. -/
def createA : ChildEvent := ⟨"create", "a", "", by decide⟩

/-- A `create` event is ignored by the watcher while it adds a key to the directory: from an
empty directory, the services stay empty and the directory holds `a`, whatever `parse` is. -/
theorem watchRun_create_unmirrored :
    ¬ ∀ (l : Listing) (evs : List ChildEvent) (st : WatchState σ),
      serviceWatcher parse ns (.ok l) none = some (.ok st) →
        (watchRun parse ns st (evs.map (ChildEvent.toWatchEvent ns))).services =
          fun id => (dirRun l.content evs id).map parse := by
  intro h
  have := congrFun (h ⟨[], .nil, nofun⟩ [createA] _ rfl) "a"
  simp [watchRun, watchLoop, watchStep, snapshot, createA, ChildEvent.toWatchEvent, dirRun,
    dirStep] at this

end Mirror

/-! ### At a listing of one child -/

/-- The listing of one child `a` with value `x`. -/
def listingA : Listing := ⟨[("a", "x")], by decide, by decide⟩

/-- An `expire` event on the child `a`. -/
def expireA : ChildEvent := ⟨"expire", "a", "", by decide⟩

/-- A `set` event writing `y` to the child `b`. -/
def setB : ChildEvent := ⟨"set", "b", "y", by decide⟩

/-- The well-formedness theorem at the listing of `a` followed by its expiry. -/
theorem serviceWatcher_updates_wellFormed_expireA :
    serviceWatcher (fun v : String => v) "coinserver" (.ok listingA) none =
      some (.ok (snapshot (fun v : String => v) "coinserver" listingA)) ∧
    WellFormed (watchRun (fun v : String => v) "coinserver"
      (snapshot (fun v : String => v) "coinserver" listingA) [expireA.toWatchEvent "coinserver"]).sent ∧
    (∀ k, ((watchRun (fun v : String => v) "coinserver"
        (snapshot (fun v : String => v) "coinserver" listingA)
        [expireA.toWatchEvent "coinserver"]).services k).isSome =
      liveIds (watchRun (fun v : String => v) "coinserver"
        (snapshot (fun v : String => v) "coinserver" listingA)
        [expireA.toWatchEvent "coinserver"]).sent k) ∧
    ∀ e u, (watchStep (fun v : String => v) "coinserver" (watchRun (fun v : String => v)
        "coinserver" (snapshot (fun v : String => v) "coinserver" listingA)
        [expireA.toWatchEvent "coinserver"]).services e).2 = some u →
      Emits (watchRun (fun v : String => v) "coinserver"
        (snapshot (fun v : String => v) "coinserver" listingA)
        [expireA.toWatchEvent "coinserver"]).services u :=
  ⟨rfl, serviceWatcher_updates_wellFormed (fun v : String => v) "coinserver" (.ok listingA) none
    _ rfl [expireA.toWatchEvent "coinserver"]⟩

/-- The removal theorem at the listing of `a` followed by its expiry: `a` is added with the
status `x`, the consumer's view holds it, and its removal carries no status. -/
theorem serviceWatcher_removed_status_nil_expireA :
    (watchRun (fun v : String => v) "coinserver" (snapshot (fun v : String => v) "coinserver"
        listingA) [expireA.toWatchEvent "coinserver"]).sent =
      [⟨"coinserver", "a", some "x", "added"⟩, ⟨"coinserver", "a", none, "removed"⟩] ∧
    (consumerView [⟨"coinserver", "a", some "x", "added"⟩] "a").isSome :=
  ⟨rfl, (serviceWatcher_removed_status_nil (fun v : String => v) "coinserver" (.ok listingA) none
    _ rfl [expireA.toWatchEvent "coinserver"] [⟨"coinserver", "a", some "x", "added"⟩] []
    ⟨"coinserver", "a", none, "removed"⟩ rfl rfl).1⟩

/-- The watcher, for statuses kept as their JSON text, misses a `create` event. -/
theorem serviceWatcher_misses_create :
    ¬ ∀ (l : Listing) (evs : List ChildEvent) (st : WatchState String),
      serviceWatcher (fun v : String => v) "coinserver" (.ok l) none = some (.ok st) →
        (watchRun (fun v : String => v) "coinserver" st
            (evs.map (ChildEvent.toWatchEvent "coinserver"))).services =
          fun k => (dirRun l.content evs k).map fun v : String => v :=
  watchRun_create_unmirrored _ _

/-- The mirror theorem at the listing of `a` and a `set` of `b`: the watcher returns and its
services are `a ↦ x, b ↦ y`, the parse of the directory. -/
theorem serviceWatcher_mirrors_dir_setB :
    ∃ st, serviceWatcher (fun v : String => v) "coinserver" (.ok listingA) none = some (.ok st) ∧
      (watchRun (fun v : String => v) "coinserver" st
          ([setB].map (ChildEvent.toWatchEvent "coinserver"))).services =
        fun k => (dirRun listingA.content [setB] k).map fun v : String => v :=
  (serviceWatcher_mirrors_dir (fun v : String => v) "coinserver").2.2.2 listingA none [setB]
    (by decide) (by decide)

end Ngpool
