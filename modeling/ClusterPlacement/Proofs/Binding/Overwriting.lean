import ClusterPlacement.Proofs.Binding.Events
import Mathlib.Algebra.Group.Nat.Defs
/-! What an update of a binding overwrites when two clients share a store. An update has to carry the
version that is stored, and versions rise with every update, so while a binding stays in place a copy
that an update accepts is the stored binding itself. A creation gives version one whatever was under
the key before, and after it a copy of an older binding can be accepted too. -/

namespace ClusterPlacement

inductive Client where
  | first
  | second

inductive Request where
  | getBinding (ns name : String)
  | write (op : Operation)

namespace Request

def perform (s : Store) : Request → Store
  | getBinding _ _ => s
  | write op => op.perform s

/-- The binding as it is stored, which a client is given by a look-up and by the writes that store
one. -/
def answer (s : Store) : Request → Option Binding
  | getBinding ns name => s.binding? ns name
  | write (.createBinding b) => (s.createBinding b).toOption.map Prod.fst
  | write (.updateBinding b) => (s.updateBinding b).toOption.map Prod.fst
  | write _ => none

/-- A creation under the key that succeeds. -/
def Creates (key : String) (s : Store) : Request → Prop
  | write (.createBinding b) => b.key = key ∧ ∃ result, s.createBinding b = .ok result
  | _ => False

variable {s : Store} {key : String} {request : Request}

theorem find?_of_answer (keyed : s.Keyed) {b : Binding} (answered : request.answer s = some b) :
    (request.perform s).bindings.find? b.key = some b := by
  cases request with
  | getBinding ns name =>
    have own : b.key = objectKey ns name := keyed.bindings _ _ answered
    rw [own]
    exact answered
  | write op =>
    cases op with
    | createBinding asked =>
      obtain ⟨s', done⟩ := Except.toOption_map_fst_eq_some_iff.1 answered
      obtain ⟨_, rfl, rfl⟩ := Store.createBinding_eq_ok_iff.1 done
      simp only [perform, Operation.perform, done]
      exact (Store.withBinding_find? _ _ _ _).trans (if_pos rfl)
    | updateBinding asked =>
      obtain ⟨s', done⟩ := Except.toOption_map_fst_eq_some_iff.1 answered
      obtain ⟨current, _, _, rfl, rfl⟩ := Store.updateBinding_eq_ok_iff.1 done
      simp only [perform, Operation.perform, done]
      exact (Store.withBinding_find? _ _ _ _).trans (if_pos rfl)
    | _ => cases answered

theorem Creates.find?_eq_none (creates : request.Creates key s) : s.bindings.find? key = none := by
  cases request with
  | getBinding => exact creates.elim
  | write op =>
    cases op with
    | createBinding b =>
      obtain ⟨rfl, ⟨stored, s'⟩, done⟩ := creates
      exact (Store.createBinding_eq_ok_iff.1 done).1
    | _ => exact creates.elim

inductive Change (key : String) (s : Store) (request : Request) : Prop where
  | kept (same : (request.perform s).bindings.find? key = s.bindings.find? key)
  | removed (gone : (request.perform s).bindings.find? key = none)
  | created (creates : request.Creates key s)
  | updated (current next : Binding) (before : s.bindings.find? key = some current)
      (after : (request.perform s).bindings.find? key = some next)
      (version : next.version = current.version + 1)

theorem creates_of_event? {op : Operation} (told : op.event? s = some (.created key)) :
    (write op).Creates key s := by
  cases op with
  | createBinding b =>
    cases done : s.createBinding b with
    | error e => simp [Operation.event?, done] at told
    | ok result =>
      obtain ⟨stored, after⟩ := result
      obtain ⟨_, rfl, rfl⟩ := Store.createBinding_eq_ok_iff.1 done
      simp only [Operation.event?, done] at told
      exact ⟨BindingEvent.created.inj (Option.some.inj told), _, done⟩
  | updateBinding b =>
    cases done : s.updateBinding b <;> simp [Operation.event?, done] at told
  | _ => cases told

theorem change (key : String) (s : Store) (request : Request) : request.Change key s := by
  cases request with
  | getBinding => exact .kept rfl
  | write op =>
    have traced := Traced.perform s op
    cases told : op.event? s with
    | none =>
      rw [told] at traced
      cases traced with
      | quiet kept =>
        cases after : (op.perform s).bindings.find? key with
        | none => exact .removed after
        | some b => exact .kept (after.trans (kept key b after).symm)
    | some event =>
      rw [told] at traced
      cases traced with
      | created b _ bindings =>
        by_cases here : key = b.key
        · exact .created (here ▸ creates_of_event? told)
        · refine .kept ?_
          rw [perform, bindings, Table.find?_insert, if_neg here]
      | updated b current before raised bindings =>
        by_cases here : key = b.key
        · refine .updated current b (here ▸ before) ?_ raised
          rw [perform, bindings, Table.find?_insert, if_pos here]
        · refine .kept ?_
          rw [perform, bindings, Table.find?_insert, if_neg here]

end Request

structure Call where
  client : Client
  request : Request

namespace Store

variable {s : Store} {key : String} {b : Binding} {call : Call} {calls : List Call}

/-- The store after calls of both clients, in the order in which it takes them. -/
def serve (s : Store) (calls : List Call) : Store :=
  calls.foldl (fun s call => call.request.perform s) s

/-- The binding is what is stored at every moment, before the first of the calls and after the last
one included. -/
def Stays (key : String) (b : Binding) (s : Store) (calls : List Call) : Prop :=
  ∀ earlier, earlier <+: calls → (s.serve earlier).bindings.find? key = some b

/-- One of the calls creates a binding under the key. -/
def CreatedDuring (key : String) (s : Store) (calls : List Call) : Prop :=
  ∃ earlier call, earlier ++ [call] <+: calls ∧ call.request.Creates key (s.serve earlier)

theorem stays_cons (now : s.bindings.find? key = some b)
    (later : Stays key b (call.request.perform s) calls) : Stays key b s (call :: calls) := by
  intro earlier initial
  cases earlier with
  | nil => exact now
  | cons first earlier =>
    obtain ⟨rfl, rest⟩ := List.cons_prefix_cons.1 initial
    exact later earlier rest

theorem createdDuring_cons (created : call.request.Creates key s ∨
    CreatedDuring key (call.request.perform s) calls) : CreatedDuring key s (call :: calls) := by
  obtain creates | ⟨earlier, last, initial, creates⟩ := created
  · exact ⟨[], call, List.cons_prefix_cons.2 ⟨rfl, List.nil_prefix⟩, creates⟩
  · exact ⟨call :: earlier, last, List.cons_prefix_cons.2 ⟨rfl, initial⟩, creates⟩

theorem Stays.not_createdDuring (stays : Stays key b s calls) : ¬CreatedDuring key s calls := by
  rintro ⟨earlier, call, initial, creates⟩
  have absent := creates.find?_eq_none
  rw [stays earlier ((List.prefix_append _ _).trans initial)] at absent
  cases absent

theorem serve_find?_eq_none (absent : s.bindings.find? key = none)
    (quiet : ¬CreatedDuring key s calls) : (s.serve calls).bindings.find? key = none := by
  induction calls generalizing s with
  | nil => exact absent
  | cons call calls ih =>
    obtain ⟨now, later⟩ := not_or.1 (mt createdDuring_cons quiet)
    refine ih ?_ later
    cases call.request.change key s with
    | kept same => rw [same, absent]
    | removed gone => exact gone
    | created creates => exact absurd creates now
    | updated current _ before =>
      rw [absent] at before
      cases before

/-- Without a creation a version tells how often the binding was updated, and it stays as it is if it
never was. -/
theorem serve_version (present : s.bindings.find? key = some b)
    (quiet : ¬CreatedDuring key s calls) :
    (s.serve calls).bindings.find? key = none ∨
      ∃ updates ≤ calls.length, ∃ last, (s.serve calls).bindings.find? key = some last ∧
        last.version = b.version + UInt64.ofNat updates ∧ (updates = 0 → Stays key b s calls) := by
  induction calls generalizing s b with
  | nil =>
    refine .inr ⟨0, Nat.le_refl 0, b, present, (UInt64.add_zero _).symm, ?_⟩
    intro _ earlier initial
    obtain rfl := List.prefix_nil.1 initial
    exact present
  | cons call calls ih =>
    obtain ⟨now, later⟩ := not_or.1 (mt createdDuring_cons quiet)
    cases call.request.change key s with
    | kept same =>
      obtain gone | ⟨updates, few, last, found, version, stays⟩ := ih (same.trans present) later
      · exact .inl gone
      · refine .inr ⟨updates, Nat.le_succ_of_le few, last, found, version, ?_⟩
        intro none
        exact stays_cons present (stays none)
    | removed gone =>
      have absent := serve_find?_eq_none gone later
      exact .inl absent
    | created creates => exact absurd creates now
    | updated current next before after raised =>
      obtain rfl : b = current := Option.some.inj (present.symm.trans before)
      obtain gone | ⟨updates, few, last, found, version, _⟩ := ih after later
      · exact .inl gone
      · refine .inr ⟨updates + 1, Nat.succ_le_succ few, last, found, ?_, nofun⟩
        rw [version, raised, UInt64.ofNat_add, UInt64.add_assoc, UInt64.add_comm 1]
        rfl

/-- A copy that an update accepts was what is stored, at every moment since the client was given it,
exactly if no binding of its key was created in the meantime. -/
theorem stays_iff_not_createdDuring (reachable : s.Reachable) {client : Client} {obtaining : Request}
    {stored : Binding} {spec : BindingSpec} {between : List Call} (few : between.length < 2 ^ 64)
    (obtained : obtaining.answer s = some b)
    (accepted : (Request.write (.updateBinding { b with spec })).answer
      (s.serve (⟨client, obtaining⟩ :: between)) = some stored) :
    Stays b.key b (obtaining.perform s) between ↔
      ¬CreatedDuring b.key (obtaining.perform s) between := by
  refine ⟨Stays.not_createdDuring, fun quiet => ?_⟩
  have present := Request.find?_of_answer reachable.keyed obtained
  obtain ⟨s', updated⟩ := Except.toOption_map_fst_eq_some_iff.1 accepted
  obtain ⟨current, before, same, _, _⟩ := updateBinding_eq_ok_iff.1 updated
  replace before : ((obtaining.perform s).serve between).bindings.find? b.key = some current := before
  replace same : current.version = b.version := same
  obtain gone | ⟨updates, bounded, last, found, version, stays⟩ := serve_version present quiet
  · rw [gone] at before
    cases before
  · obtain rfl : last = current := Option.some.inj (found.symm.trans before)
    have none : UInt64.ofNat updates = 0 := by
      rw [same] at version
      exact UInt64.add_eq_left.1 version.symm
    refine stays ?_
    have small : updates < 2 ^ 64 := Nat.lt_of_le_of_lt bounded few
    have := congrArg UInt64.toNat none
    rwa [UInt64.toNat_ofNat_of_lt' small] at this

def webBinding : Binding where
  ns := "default"
  name := "web-binding"
  owner := ⟨"SchedulePolicy", "web", "first"⟩
  version := 1
  spec := ⟨[⟨"job", [⟨"a", []⟩]⟩]⟩

def creating : Request := .write (.createBinding webBinding)

def movedBinding : Binding := { webBinding with spec := ⟨[⟨"job", [⟨"b", []⟩]⟩]⟩ }

def moving : Request := .write (.updateBinding movedBinding)

def lookingOn : List Call :=
  [⟨.second, .getBinding webBinding.ns webBinding.name⟩,
    ⟨.second, .write (.deleteBinding webBinding.ns "job-binding")⟩]

theorem stays_while_lookingOn : Store.empty.Reachable ∧ creating.answer .empty = some webBinding ∧
    (∃ stored, moving.answer (Store.empty.serve (⟨.first, creating⟩ :: lookingOn)) = some stored) ∧
    Stays webBinding.key webBinding (creating.perform .empty) lookingOn := by
  have obtained : creating.answer .empty = some webBinding := rfl
  obtain ⟨stored, accepted⟩ : ∃ stored,
      moving.answer (Store.empty.serve (⟨.first, creating⟩ :: lookingOn)) = some stored := ⟨_, rfl⟩
  have quiet : ¬CreatedDuring webBinding.key (creating.perform .empty) lookingOn := by
    rintro ⟨earlier, call, initial, creates⟩
    have member := initial.subset (List.mem_append_right earlier (List.mem_singleton_self call))
    simp only [lookingOn, List.mem_cons, List.not_mem_nil, or_false] at member
    obtain rfl | rfl := member
    · exact creates
    · exact creates
  have stays := stays_iff_not_createdDuring .empty (by decide) obtained accepted
  exact ⟨.empty, obtained, ⟨stored, accepted⟩, stays.2 quiet⟩

/-- The second client deletes what is stored under a key and creates a binding of its own there. -/
def replacing (theirs : Binding) : List Call :=
  [⟨.second, .write (.deleteBinding theirs.ns theirs.name)⟩, ⟨.second, .write (.createBinding theirs)⟩]

/-- Whatever a copy of version one was of, its update is accepted in the place of a binding that was
just created. -/
theorem accepted_after_replacing {theirs : Binding} (same : b.key = theirs.key)
    (first : b.version = 1) :
    (s.serve (replacing theirs)).bindings.find? b.key = some { theirs with version := 1 } ∧
      (Request.write (.updateBinding b)).answer (s.serve (replacing theirs)) =
        some { b with version := 2 } := by
  have absent : (s.deleteBinding theirs.ns theirs.name).2.bindings.find? theirs.key = none :=
    (Table.find?_erase ..).trans (if_pos rfl)
  have created := createBinding_eq_ok_iff.2 ⟨absent, rfl, rfl⟩
  have after : s.serve (replacing theirs) =
      (s.deleteBinding theirs.ns theirs.name).2.withBinding theirs.key { theirs with version := 1 } := by
    simp only [serve, replacing, List.foldl_cons, List.foldl_nil, Request.perform, Operation.perform,
      created]
  have found : (s.serve (replacing theirs)).bindings.find? b.key = some { theirs with version := 1 } := by
    rw [after, same, withBinding_find?, if_pos rfl]
  have updated := updateBinding_eq_ok_iff.2 ⟨_, found, first.symm, rfl, rfl⟩
  exact ⟨found, Except.toOption_map_fst_eq_some_iff.2 ⟨_, updated⟩⟩

def theirBinding : Binding := { webBinding with spec := ⟨[⟨"job", [⟨"c", []⟩]⟩]⟩ }

/-- The first client moves the binding that it created, and what it overwrites is the binding of the
second client. -/
theorem moving_overwrites_theirBinding :
    Store.empty.Reachable ∧ creating.answer .empty = some webBinding ∧
    (∃ stored,
      moving.answer (Store.empty.serve (⟨.first, creating⟩ :: replacing theirBinding)) = some stored) ∧
    (Store.empty.serve (⟨.first, creating⟩ :: replacing theirBinding)).bindings.find? webBinding.key =
      some theirBinding ∧
    theirBinding ≠ webBinding := by
  have same : movedBinding.key = theirBinding.key := rfl
  obtain ⟨found, accepted⟩ := accepted_after_replacing (s := creating.perform .empty) same rfl
  exact ⟨.empty, rfl, ⟨_, accepted⟩, found, by decide⟩

end Store

end ClusterPlacement
