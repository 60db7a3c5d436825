import ClusterPlacement.Proofs.Binding.Overwriting
import ClusterPlacement.Proofs.Store.Run
/-! What the version of a binding says. It starts at one with the call that creates the binding and rises by
one with every update, whatever version the caller passes in, so it counts the updates since the binding
was last created. Calls that are refused, and writes that find the spec they ask for, change nothing. -/

namespace ClusterPlacement

variable {s s' : Store} {b candidate : Binding} {key : String} {time : UInt64} {event : BindingEvent}
  {events : List BindingEvent}

/-- How often a binding was updated after it was last created. -/
def updatesSinceCreation (key : String) (events : List BindingEvent) : Nat :=
  (events.reverse.takeWhile (· ≠ .created key)).count (.updated key)

theorem updatesSinceCreation_created (key : String) (events : List BindingEvent) :
    updatesSinceCreation key (events ++ [.created key]) = 0 := by
  simp [updatesSinceCreation]

theorem updatesSinceCreation_updated (key : String) (events : List BindingEvent) :
    updatesSinceCreation key (events ++ [.updated key]) = updatesSinceCreation key events + 1 := by
  simp [updatesSinceCreation]

theorem updatesSinceCreation_of_ne (created : event ≠ .created key) (updated : event ≠ .updated key) :
    updatesSinceCreation key (events ++ [event]) = updatesSinceCreation key events := by
  simp [updatesSinceCreation, created, updated]

namespace Traced

theorem attempt (keyed : s.bindings.KeyedBy Binding.key) (time : UInt64) (key : String) :
    Traced s (s.attempt time key).2 (s.reconcileEvent? time key) := by
  rw [Store.attempt_eq_commit, Store.reconcileEvent?]
  cases reconciled : s.reconcile time key with
  | error e => exact of_bindings_eq rfl
  | ok result =>
    obtain ⟨outcome, after⟩ := result
    rcases (Store.reconcile_eq_ok_iff keyed).1 reconciled with
      ⟨p, _, _, rfl, rfl⟩ | ⟨p, out, rfl, scheduled⟩
    · exact of_bindings_eq rfl
    · have bindings : after.bindings = s.bindings.insert (objectKey p.ns p.bindingName) out.binding :=
        congrArg Store.bindings scheduled.store_eq
      exact settle keyed scheduled.settled bindings

theorem visit {here : Controller.Circumstances} {p p' : Controller.PassState}
    (keyed : p.store.bindings.KeyedBy Binding.key) (visited : Controller.Visited here p key p') :
    Traced p.store p'.store (Controller.visitEvent? here p key) := by
  cases visited with
  | deferred waits =>
    rw [Controller.visitEvent?, if_pos waits]
    exact of_bindings_eq rfl
  | settled due reconciled =>
    have traced := attempt keyed (here.time key) key
    rw [Store.attempt_eq_commit, reconciled] at traced
    rw [Controller.visitEvent?, if_neg due]
    exact traced
  | failed due failure requeued =>
    rw [Controller.visitEvent?_of_error failure]
    exact of_bindings_eq rfl

end Traced

/-- Every binding has the version that the calls so far come to. -/
def VersionsCount (events : List BindingEvent) (s : Store) : Prop :=
  ∀ key b, s.bindings.find? key = some b →
    b.version = 1 + UInt64.ofNat (updatesSinceCreation key events)

namespace VersionsCount

theorem empty : VersionsCount [] .empty := by
  intro key b found
  cases found

theorem step {event? : Option BindingEvent} (counts : VersionsCount events s)
    (traced : Traced s s' event?) : VersionsCount (events ++ event?.toList) s' := by
  intro key found present
  cases traced with
  | quiet kept =>
    rw [Option.toList_none, List.append_nil]
    exact counts key found (kept key found present)
  | created b first bindings =>
    rw [bindings, Table.find?_insert] at present
    rw [Option.toList_some]
    split at present
    case isTrue here =>
      obtain rfl := Option.some.inj present
      rw [here, updatesSinceCreation_created]
      exact first
    case isFalse elsewhere =>
      have other : BindingEvent.created b.key ≠ .created key := by
        intro same
        exact elsewhere (BindingEvent.created.inj same).symm
      rw [updatesSinceCreation_of_ne other nofun]
      exact counts key found present
  | updated b current before raised bindings =>
    rw [bindings, Table.find?_insert] at present
    rw [Option.toList_some]
    split at present
    case isTrue here =>
      obtain rfl := Option.some.inj present
      rw [here, updatesSinceCreation_updated, raised, counts _ _ before, UInt64.ofNat_add,
        UInt64.add_assoc]
      rfl
    case isFalse elsewhere =>
      have creation : BindingEvent.updated b.key ≠ .created key := nofun
      have other : BindingEvent.updated b.key ≠ .updated key := by
        intro same
        exact elsewhere (BindingEvent.updated.inj same).symm
      rw [updatesSinceCreation_of_ne creation other]
      exact counts key found present

theorem work {here : Controller.Circumstances} {p : Controller.PassState} {keys : List String}
    (reachable : p.store.Reachable) (counts : VersionsCount events p.store) :
    VersionsCount (events ++ (Controller.work here p keys).2) (Controller.work here p keys).1 := by
  induction keys generalizing p events with
  | nil => simpa [Controller.work] using counts
  | cons key keys ih =>
    unfold Controller.work
    cases visited : Controller.visit here p key with
    | none =>
      -- The pass ends at a policy whose reconcile failed, so nothing was stored for it.
      obtain ⟨_, e, failure⟩ := Controller.error_of_visit_eq_none visited
      simpa [Controller.visitEvent?_of_error failure] using counts
    | some next =>
      have traced := Traced.visit reachable.keyed.bindings (Controller.visit_eq_some_iff.1 visited)
      have later := ih (reachable.visit visited) (counts.step traced)
      rw [List.append_assoc] at later
      exact later

theorem perform (reachable : s.Reachable) (counts : VersionsCount events s) (a : Action) :
    VersionsCount (events ++ (a.perform s).2) (a.perform s).1 := by
  have keyed := reachable.keyed.bindings
  cases a with
  | write op => exact counts.step (.perform s op)
  | reconcile time key => exact counts.step (.attempt keyed time key)
  | pass c here => exact work (p := c.passStart s) reachable counts
  | apply m =>
    cases wrong : m.error? with
    | some e =>
      have traced : Traced s s none := .of_bindings_eq rfl
      simpa [Action.perform, Manifest.apply, wrong] using counts.step traced
    | none =>
      have traced : Traced s (m.write s) none := .of_bindings_eq (m.write_bindings s)
      simpa [Action.perform, Manifest.apply, wrong] using counts.step traced
  | writeBinding candidate =>
    cases settled : candidate.settle (s.bindings.find? candidate.key) with
    | mk outcome stored =>
      have traced : Traced s (s.withBinding candidate.key stored) (outcome.event? stored.key) :=
        .settle keyed settled rfl
      simp only [Action.perform, Store.writeBinding_eq keyed, settled]
      exact counts.step traced

theorem run (reachable : s.Reachable) (counts : VersionsCount events s) (actions : List Action) :
    VersionsCount (events ++ (s.run actions).2) (s.run actions).1 := by
  induction actions generalizing s events with
  | nil => simpa [Store.run] using counts
  | cons a actions ih =>
    have later := ih (reachable.perform a) (counts.perform reachable a)
    rw [List.append_assoc] at later
    exact later

end VersionsCount

def Operation.refusal? (s : Store) : Operation → Option StoreError
  | createBinding b => Except.error? (s.createBinding b)
  | updateBinding b => Except.error? (s.updateBinding b)
  | setClusterState name state => Except.error? (s.setClusterState name state)
  | _ => none

/-- The operations that are refused. A conflict tells the version of the caller and the stored one. -/
inductive Refused (s : Store) : Operation → StoreError → Prop where
  | clusterMissing (name : String) (state : ClusterState) (absent : s.cluster? name = none) :
      Refused s (.setClusterState name state) (.clusterMissing name)
  | bindingExists (b current : Binding) (present : s.bindings.find? b.key = some current) :
      Refused s (.createBinding b) (.bindingExists b.key)
  | bindingMissing (b : Binding) (absent : s.bindings.find? b.key = none) :
      Refused s (.updateBinding b) (.bindingMissing b.key)
  | conflict (b current : Binding) (present : s.bindings.find? b.key = some current)
      (stale : current.version ≠ b.version) :
      Refused s (.updateBinding b) (.conflict b.key b.version current.version)

theorem refused_of_refusal? {op : Operation} {e : StoreError} (refused : op.refusal? s = some e) :
    Refused s op e := by
  cases op with
  | createBinding b =>
    simp only [Operation.refusal?, Store.createBinding] at refused
    cases present : s.bindings.find? b.key with
    | none => simp [present, Except.error?] at refused
    | some current =>
      rw [present] at refused
      obtain rfl := Option.some.inj refused
      exact .bindingExists b current present
  | updateBinding b =>
    simp only [Operation.refusal?, Store.updateBinding] at refused
    cases present : s.bindings.find? b.key with
    | none =>
      rw [present] at refused
      obtain rfl := Option.some.inj refused
      exact .bindingMissing b present
    | some current =>
      by_cases fresh : current.version = b.version
      · simp [present, fresh, Except.error?] at refused
      · simp only [present, if_neg fresh] at refused
        obtain rfl := Option.some.inj refused
        exact .conflict b current present fresh
  | setClusterState name state =>
    simp only [Operation.refusal?, Store.setClusterState] at refused
    cases present : s.cluster? name with
    | none =>
      rw [present] at refused
      obtain rfl := Option.some.inj refused
      exact .clusterMissing name state present
    | some c => simp [present, Except.error?] at refused
  | _ => cases refused

theorem Refused.perform_eq {op : Operation} {e : StoreError} (refused : Refused s op e) :
    op.perform s = s := by
  cases refused with
  | clusterMissing name state absent =>
    simp only [Operation.perform, Store.setClusterState, absent]
  | bindingExists b current present => simp only [Operation.perform, Store.createBinding, present]
  | bindingMissing b absent => simp only [Operation.perform, Store.updateBinding, absent]
  | conflict b current present stale =>
    simp only [Operation.perform, Store.updateBinding, present, if_neg stale]

/-- The call that a write through the writer made; none where the binding has the spec already. -/
def WriteOutcome.Backed (s : Store) (candidate stored : Binding) (s' : Store) : WriteOutcome → Prop
  | created => s.createBinding candidate = .ok (stored, s')
  | updated => ∃ next : Binding, next.key = candidate.key ∧ s.updateBinding next = .ok (stored, s')
  | unchanged => s' = s ∧ s.bindings.find? candidate.key = some stored

theorem WriteOutcome.backed (keyed : s.bindings.KeyedBy Binding.key) {outcome : WriteOutcome}
    {stored : Binding} (written : s.writeBinding candidate = .ok (outcome, stored, s')) :
    outcome.Backed s candidate stored s' := by
  rw [Store.writeBinding_eq keyed] at written
  cases found : s.bindings.find? candidate.key with
  | none =>
    rw [found] at written
    cases written
    exact Store.createBinding_eq_ok_iff.2 ⟨found, rfl, rfl⟩
  | some current =>
    have own : current.key = candidate.key := keyed _ _ found
    simp only [found, Binding.settle] at written
    split at written
    case isTrue =>
      cases written
      refine ⟨?_, found⟩
      rw [Store.withBinding, Table.insert_of_find? found]
    case isFalse =>
      cases written
      refine ⟨{ current with spec := candidate.spec }, own, ?_⟩
      refine Store.updateBinding_eq_ok_iff.2 ⟨current, ?_, rfl, rfl, ?_⟩
      · exact own ▸ found
      · exact own ▸ rfl

theorem Store.Schedules.backed (keyed : s.bindings.KeyedBy Binding.key) {p : Policy} {out : Scheduled}
    (scheduled : s.Schedules time key p out s') : ∃ candidate written,
      out.write.Backed s candidate out.binding written ∧ s'.bindings = written.bindings := by
  have written := WriteOutcome.backed keyed (scheduled.writeBinding_eq keyed)
  have bindings := congrArg Store.bindings scheduled.store_eq
  exact ⟨_, _, written, bindings⟩

namespace Store

/-- After any run from the empty store, the version of every binding tells how often it was updated since
it was created. What is refused there changes nothing, and neither does a write that finds the spec it
asks for; any other write through the writer, that of a reconcile included, is one creation or one
update. -/
theorem run_versions {actions : List Action} (ran : empty.run actions = (s, events)) :
    (∀ key b, s.bindings.find? key = some b →
      b.version = 1 + UInt64.ofNat (updatesSinceCreation key events) ∧
      (updatesSinceCreation key events + 1 < 2 ^ 64 →
        b.version.toNat = updatesSinceCreation key events + 1)) ∧
    (∀ op e, op.refusal? s = some e → op.perform s = s ∧ Refused s op e) ∧
    (∀ candidate outcome stored s', s.writeBinding candidate = .ok (outcome, stored, s') →
      outcome.Backed s candidate stored s') ∧
    ∀ time key out s', s.reconcile time key = .ok (.scheduled out, s') →
      ∃ candidate written, out.write.Backed s candidate out.binding written ∧
        s'.bindings = written.bindings := by
  have reachable : s.Reachable := by
    have := Reachable.empty.run actions
    rwa [ran] at this
  have keyed := reachable.keyed.bindings
  have counts : VersionsCount events s := by
    have := VersionsCount.empty.run .empty actions
    rwa [ran] at this
  refine ⟨?_, ?_, ?_, ?_⟩
  · intro key b found
    have version := counts key b found
    refine ⟨version, ?_⟩
    intro small
    have few : updatesSinceCreation key events < 2 ^ 64 := Nat.lt_of_succ_lt small
    rw [version, UInt64.toNat_add, UInt64.toNat_ofNat_of_lt' few, Nat.add_comm]
    exact Nat.mod_eq_of_lt small
  · intro op e refused
    have known := refused_of_refusal? refused
    exact ⟨known.perform_eq, known⟩
  · intro candidate outcome stored s' written
    exact WriteOutcome.backed keyed written
  · intro time key out s' reconciled
    rcases (reconcile_eq_ok_iff keyed).1 reconciled with
      ⟨_, _, _, skipped, _⟩ | ⟨p, out', same, scheduled⟩
    · cases skipped
    · obtain rfl := ReconcileOutcome.scheduled.inj same
      exact scheduled.backed keyed

/-- A binding that is created, updated, removed and created anew. From then on a reconcile moves it, a client
moves it back, and a pass moves it again. -/
def busy : List Action :=
  [.write (.putCluster ⟨"b", .empty, .online⟩), .write (.putResource ⟨"default", "job", none⟩),
    .write (.createBinding { webBinding with version := 9 }), .write (.updateBinding movedBinding),
    .write (.deleteBinding "default" "web-binding"),
    .apply { Manifest.empty with policies := [web] },
    .writeBinding { webBinding with version := 7 }, .reconcile 5 web.key,
    .write (.updateBinding { webBinding with version := 2 }),
    .write (.updateBinding { webBinding with version := 2 }),
    .pass (.new .default) ⟨.zero, .ofNat 6, fun _ => .ofNat 1⟩,
    .writeBinding { movedBinding with version := 0 }]

/-- Three updates since the second creation, one of them by a client: the other time that client was late. -/
theorem run_versions_busy : ∃ s events b, empty.run busy = (s, events) ∧
    s.bindings.find? webBinding.key = some b ∧ updatesSinceCreation webBinding.key events = 3 ∧
    b.version = 1 + UInt64.ofNat 3 ∧
    (∃ s', s.writeBinding { movedBinding with version := 0 } = .ok (.unchanged, b, s') ∧ s' = s) ∧
    ∃ e, (Operation.updateBinding { webBinding with version := 2 }).refusal? s = some e ∧
      e = .conflict webBinding.key 2 4 ∧
      (Operation.updateBinding { webBinding with version := 2 }).perform s = s := by
  obtain ⟨s, events, ran⟩ : ∃ s events, empty.run busy = (s, events) := ⟨_, _, rfl⟩
  obtain ⟨versions, refusals, writes, _⟩ := run_versions ran
  obtain ⟨rfl, rfl⟩ := Prod.mk.inj ran
  obtain ⟨b, found⟩ : ∃ b, (empty.run busy).1.bindings.find? webBinding.key = some b := ⟨_, rfl⟩
  obtain ⟨s', written⟩ : ∃ s', (empty.run busy).1.writeBinding { movedBinding with version := 0 } =
      .ok (.unchanged, b, s') := by
    cases found
    exact ⟨_, rfl⟩
  refine ⟨_, _, b, rfl, found, rfl, (versions _ _ found).1, ?_, _, rfl, rfl, ?_⟩
  · exact ⟨s', written, (writes _ _ _ _ written).1⟩
  · exact (refusals _ _ rfl).1

end Store

end ClusterPlacement
