import Mathlib.Data.List.Induction
import SparkGateway.Spec.K8sPool

/-!
# `SparkGateway.Proofs.Pool.K8sTracking`: when the K8s pool tracks the cluster

`Watch` is the contract of the `kube` watcher for one object: what is known of it, and the buffer
of a relist, from `Init` to `InitDone`. A relist replaces what is known by its buffer, so an
object that it did not list is gone. `WellShaped` says which items can come when.

The pool follows the object events as they come and ignores `InitDone`. So it always holds the
addresses of the object it saw last (`watch_backends`), and a relist that lists nothing does not
empty it. `tracksCluster_iff` says that this is all that can go wrong: along a well-shaped
stream the pool has the addresses of the known object whenever no relist is going on, exactly
when every relist that ends without having listed the object leaves the pool nothing to forget.
-/

set_option autoImplicit false

namespace SparkGateway.Proofs.Pool

open SparkGateway.Spec

/-! ### The contract of the watcher -/

/-- What a client of the watcher may take for known: the object, if there is one, and during a
relist the buffer. -/
structure Watch where
  known : Option Endpoints
  relist : Option (Option Endpoints)

namespace Watch

/-- Nothing is known, and no relist is going on. -/
def start : Watch := ⟨none, none⟩

/-- One item of the stream. -/
def next (w : Watch) : WatcherItem → Watch
  | .ok (.apply ep) => { w with known := some ep }
  | .ok (.delete _) => { w with known := none }
  | .ok .init => { w with relist := some none }
  | .ok (.initApply ep) => { w with relist := some (some ep) }
  | .ok .initDone =>
      match w.relist with
      | some buffer => ⟨buffer, none⟩
      | none => w
  | .error _ => w

/-- The watch after a stream of items. -/
def after (items : List WatcherItem) : Watch := items.foldl next start

/-- The item can come in this state: listed objects and `InitDone` during a relist, the other
object events outside of one, `Init` and errors at any time. -/
def Admits (w : Watch) : WatcherItem → Prop
  | .ok (.apply _) => w.relist = none
  | .ok (.delete _) => w.relist = none
  | .ok (.initApply _) => w.relist ≠ none
  | .ok .initDone => w.relist ≠ none
  | .ok .init => True
  | .error _ => True

/-- Every item comes when it can. -/
def AdmitsAll : Watch → List WatcherItem → Prop
  | _, [] => True
  | w, item :: items => w.Admits item ∧ (w.next item).AdmitsAll items

end Watch

/-- A stream that the watcher can yield. -/
def WellShaped (items : List WatcherItem) : Prop := Watch.start.AdmitsAll items

/-- The addresses of an object, and none if there is no object. -/
def addressesOf (port : UInt16) : Option Endpoints → List String
  | some ep => extractAddresses ep port
  | none => []

/-- Outside of a relist the pool has the addresses of the known object. -/
def Tracks (port : UInt16) (items : List WatcherItem) : Prop :=
  ∀ before, before <+: items → (Watch.after before).relist = none →
    (K8sPool.new.watch port before).backends = addressesOf port (Watch.after before).known

/-! ### The object that the pool saw last -/

/-- An event that names the object sets what was seen of it, and its deletion clears it. -/
def see (seen : Option Endpoints) : WatcherItem → Option Endpoints
  | .ok (.apply ep) => some ep
  | .ok (.initApply ep) => some ep
  | .ok (.delete _) => none
  | .ok .init => seen
  | .ok .initDone => seen
  | .error _ => seen

/-- The object of the last event that named one, unless that was its deletion. -/
def lastSeen (items : List WatcherItem) : Option Endpoints := items.foldl see none

/-- Each relist that ends without having listed the object ends when the object seen last has no
address for the port. -/
def EmptyRelistsHarmless (port : UInt16) (items : List WatcherItem) : Prop :=
  ∀ before rest, items = before ++ .ok .initDone :: rest →
    (Watch.after before).relist = some none → addressesOf port (lastSeen before) = []

/-- A stream comes when it can if its two parts do. -/
theorem admitsAll_append (items items' : List WatcherItem) :
    ∀ w : Watch, w.AdmitsAll (items ++ items') ↔
      w.AdmitsAll items ∧ (items.foldl Watch.next w).AdmitsAll items' := by
  induction items with
  | nil => intro w; simp [Watch.AdmitsAll]
  | cons item items ih =>
    intro w
    simp only [List.cons_append, Watch.AdmitsAll, List.foldl_cons, ih, and_assoc]

/-- An initial part of a well-shaped stream is well-shaped. -/
theorem WellShaped.left {items items' : List WatcherItem} (h : WellShaped (items ++ items')) :
    WellShaped items :=
  ((admitsAll_append items items' Watch.start).mp h).1

/-- The last item of a well-shaped stream comes when it can. -/
theorem WellShaped.last {items : List WatcherItem} {item : WatcherItem}
    (h : WellShaped (items ++ [item])) : (Watch.after items).Admits item :=
  ((admitsAll_append items [item] Watch.start).mp h).2.1

/-- An initial part of a harmless stream is harmless. -/
theorem EmptyRelistsHarmless.left {port : UInt16} {items items' : List WatcherItem}
    (h : EmptyRelistsHarmless port (items ++ items')) : EmptyRelistsHarmless port items := by
  intro before rest heq
  exact h before (rest ++ items') (by simp [heq])

@[simp] theorem after_snoc (items : List WatcherItem) (item : WatcherItem) :
    Watch.after (items ++ [item]) = (Watch.after items).next item := List.foldl_append

@[simp] theorem lastSeen_snoc (items : List WatcherItem) (item : WatcherItem) :
    lastSeen (items ++ [item]) = see (lastSeen items) item := List.foldl_append

@[simp] theorem watch_snoc (port : UInt16) (pool : K8sPool) (items : List WatcherItem)
    (item : WatcherItem) :
    pool.watch port (items ++ [item]) = (pool.watch port items).onEvent port item :=
  List.foldl_append

/-- `set_backends` sets the list, whether or not it differs. -/
@[simp] theorem setBackends_backends (pool : K8sPool) (addrs : List String) :
    (pool.setBackends addrs).backends = addrs := by
  unfold K8sPool.setBackends
  split
  · rfl
  · rename_i heq
    exact not_ne_iff.mp heq

/-- One item keeps the pool at the addresses of the object seen last. -/
theorem onEvent_backends (port : UInt16) {pool : K8sPool} {seen : Option Endpoints}
    (h : pool.backends = addressesOf port seen) (item : WatcherItem) :
    (pool.onEvent port item).backends = addressesOf port (see seen item) := by
  cases item with
  | error e => exact h
  | ok event =>
    cases event with
    | apply ep => exact setBackends_backends pool _
    | initApply ep => exact setBackends_backends pool _
    | delete ep => exact setBackends_backends pool _
    | init => exact h
    | initDone => exact h

/-- **The pool follows what it saw last**, along every stream. -/
theorem watch_backends (port : UInt16) (items : List WatcherItem) :
    (K8sPool.new.watch port items).backends = addressesOf port (lastSeen items) := by
  induction items using List.reverseRecOn with
  | nil => rfl
  | append_singleton items item ih =>
    rw [watch_snoc, lastSeen_snoc]
    exact onEvent_backends port ih item

/-! ### What was seen and what is known -/

/-- Outside of a relist what was seen has the addresses of what is known; during one, an object
in the buffer is the one seen last. -/
structure Follows (port : UInt16) (w : Watch) (seen : Option Endpoints) : Prop where
  outside : w.relist = none → addressesOf port seen = addressesOf port w.known
  inside : ∀ ep, w.relist = some (some ep) → seen = some ep

/-- One item that comes when it can, and is not the end of a relist that listed nothing while
there are addresses to forget. -/
theorem Follows.next {port : UInt16} {w : Watch} {seen : Option Endpoints}
    (h : Follows port w seen) {item : WatcherItem} (hadmits : w.Admits item)
    (hharmless : item = .ok .initDone → w.relist = some none → addressesOf port seen = []) :
    Follows port (w.next item) (see seen item) := by
  cases item with
  | error e => exact h
  | ok event =>
    cases event with
    | apply ep =>
      have hrelist : w.relist = none := hadmits
      refine ⟨fun _ => rfl, fun ep' hep => ?_⟩
      rw [show (w.next (.ok (.apply ep))).relist = w.relist from rfl, hrelist] at hep
      cases hep
    | delete ep =>
      have hrelist : w.relist = none := hadmits
      refine ⟨fun _ => rfl, fun ep' hep => ?_⟩
      rw [show (w.next (.ok (.delete ep))).relist = w.relist from rfl, hrelist] at hep
      cases hep
    | init => exact ⟨fun hnone => (nomatch hnone), fun ep hep => (nomatch hep)⟩
    | initApply ep =>
      refine ⟨fun hnone => (nomatch hnone), fun ep' hep => ?_⟩
      exact Option.some.inj hep
    | initDone =>
      -- The buffer becomes what is known.
      rcases hrelist : w.relist with _ | _ | ep
      · exact absurd hrelist hadmits
      · have hnext : w.next (.ok .initDone) = ⟨none, none⟩ := by
          simp only [Watch.next, hrelist]
        rw [hnext]
        exact ⟨fun _ => hharmless rfl hrelist, fun ep hep => nomatch hep⟩
      · have hnext : w.next (.ok .initDone) = ⟨some ep, none⟩ := by
          simp only [Watch.next, hrelist]
        rw [hnext]
        exact ⟨fun _ => congrArg (addressesOf port) (h.inside ep hrelist),
          fun ep hep => nomatch hep⟩

/-- Along a well-shaped harmless stream, what was seen last follows the watch. -/
theorem follows_run {port : UInt16} (items : List WatcherItem) (hshape : WellShaped items)
    (hharmless : EmptyRelistsHarmless port items) :
    Follows port (Watch.after items) (lastSeen items) := by
  induction items using List.reverseRecOn with
  | nil => exact ⟨fun _ => rfl, fun ep hep => nomatch hep⟩
  | append_singleton items item ih =>
    rw [after_snoc, lastSeen_snoc]
    refine (ih hshape.left hharmless.left).next hshape.last ?_
    rintro rfl
    exact hharmless items [] rfl

/-- **When the pool tracks the cluster.** Along a well-shaped stream the pool has the addresses of
the known object whenever no relist is going on, if and only if every relist that ends without
having listed the object finds no address to forget. -/
theorem tracksCluster_iff (port : UInt16) (items : List WatcherItem) (hshape : WellShaped items) :
    Tracks port items ↔ EmptyRelistsHarmless port items := by
  constructor
  · intro htracks before rest heq hrelist
    -- After this `InitDone` nothing is known and the relist is over.
    have hnext : (Watch.after before).next (.ok .initDone) = ⟨none, none⟩ := by
      simp only [Watch.next, hrelist]
    have hempty := htracks (before ++ [.ok .initDone]) ⟨rest, by simp [heq]⟩
      (by rw [after_snoc, hnext])
    rw [after_snoc, hnext, watch_backends, lastSeen_snoc] at hempty
    exact hempty
  · rintro hharmless before ⟨rest, rfl⟩ hrelist
    have hfollows := follows_run before hshape.left hharmless.left
    rw [watch_backends]
    exact hfollows.outside hrelist

/-- An object with one ready address for port 15002. -/
def oneReady : Endpoints := ⟨some [⟨some [⟨"10.0.0.1"⟩], some [⟨15002⟩]⟩]⟩

/-- Listed, deleted, and then not listed again: the pool is empty in the end. -/
def deletedBeforeRelist : List WatcherItem :=
  [.ok .init, .ok (.initApply oneReady), .ok .initDone, .ok (.delete oneReady), .ok .init,
    .ok .initDone]

/-- The pool tracks this stream. -/
theorem tracks_deletedBeforeRelist :
    WellShaped deletedBeforeRelist ∧ Tracks 15002 deletedBeforeRelist := by
  have hshape : WellShaped deletedBeforeRelist := by
    simp [WellShaped, deletedBeforeRelist, Watch.AdmitsAll, Watch.Admits, Watch.next, Watch.start]
  refine ⟨hshape, (tracksCluster_iff 15002 _ hshape).mpr ?_⟩
  intro before rest heq hrelist
  -- Of the two relists only the second ends with an empty buffer.
  simp [deletedBeforeRelist, List.cons_eq_append_iff] at heq
  obtain ⟨tail, rfl, ⟨rfl, -⟩ | ⟨rfl, -⟩⟩ := heq
  · cases hrelist
  · rfl

/-- Deleted while the watcher was away: the relist does not list the object, and the pool keeps
the address of a pod that is gone. -/
theorem goneDuringRelist_kept :
    let items : List WatcherItem :=
      [.ok .init, .ok (.initApply oneReady), .ok .initDone, .error "watch closed", .ok .init,
        .ok .initDone]
    WellShaped items ∧ (Watch.after items).relist = none ∧ (Watch.after items).known = none ∧
      (K8sPool.new.watch 15002 items).backends = ["10.0.0.1:15002"] := by
  refine ⟨?_, rfl, rfl, by decide +kernel⟩
  simp [WellShaped, Watch.AdmitsAll, Watch.Admits, Watch.next, Watch.start]

end SparkGateway.Proofs.Pool
