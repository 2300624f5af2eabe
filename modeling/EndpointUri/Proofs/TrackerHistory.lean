import EndpointUri.Proofs.Supersession
import Mathlib.Data.List.Nodup

/-!
A tracker and its clones over any history. Whatever is started, finished and cancelled, with whatever
numbers and through whichever clone, a request is active exactly when it is the latest one of its
document and nothing has ended it since.
-/
namespace EndpointUri

namespace Tracker

/-- What can be asked of a tracker, for any document and with any number. -/
inductive Action where
  | start (document : String)
  | finish (document : String) (id : RequestId)
  | cancel (document : String)
  deriving DecidableEq, Repr

namespace Action

def document : Action → String
  | .start document | .finish document _ | .cancel document => document

def isStart : Action → Bool
  | .start _ => true
  | _ => false

/-- The action ends a request: a newer one starts, it is finished, or its document is cancelled. -/
def Ends (document : String) (id : RequestId) (action : Action) : Prop :=
  action = .start document ∨ action = .finish document id ∨ action = .cancel document

end Action

/-- An action that was performed, and the number it returned. -/
structure Performed where
  action : Action
  returned : Option RequestId
  deriving DecidableEq, Repr

/-- Only a start returns a number. -/
def perform (t : Tracker) : Action → Tracker × Option RequestId
  | .start document =>
    let (t, id) := t.start document
    (t, some id)
  | .finish document id => (t.finish document id, none)
  | .cancel document => (t.cancel document, none)

def startCount (history : List Performed) : Nat := history.countP (·.action.isStart)

/-- The latest start of the document returned the number, and nothing has ended the request since. -/
def Latest (history : List Performed) (document : String) (id : RequestId) : Prop :=
  ∃ before after, history = before ++ ⟨.start document, some id⟩ :: after ∧
    ∀ event ∈ after, ¬ event.action.Ends document id

theorem latest_snoc {history : List Performed} {event : Performed} {document : String}
    {id : RequestId} :
    Latest (history ++ [event]) document id ↔
      event = ⟨.start document, some id⟩ ∨
        Latest history document id ∧ ¬ event.action.Ends document id := by
  constructor
  · rintro ⟨before, after, split, quiet⟩
    rcases List.eq_nil_or_concat after with rfl | ⟨between, last, rfl⟩
    · obtain ⟨-, same⟩ := List.append_inj' split rfl
      exact Or.inl (List.singleton_inj.mp same)
    · rw [List.concat_eq_append, ← List.cons_append, ← List.append_assoc] at split
      rw [List.concat_eq_append] at quiet
      obtain ⟨rfl, same⟩ := List.append_inj' split rfl
      obtain rfl := List.singleton_inj.mp same
      obtain ⟨earlier, here⟩ := List.forall_mem_append.mp quiet
      exact Or.inr ⟨⟨before, between, rfl, earlier⟩, here event (List.mem_singleton_self event)⟩
  · rintro (rfl | ⟨⟨before, after, rfl, quiet⟩, kept⟩)
    · exact ⟨history, [], rfl, by simp⟩
    · refine ⟨before, after ++ [event], by simp, ?_⟩
      rw [List.forall_mem_append, List.forall_mem_singleton]
      exact ⟨quiet, kept⟩

theorem Latest.mem {history : List Performed} {document : String} {id : RequestId}
    (latest : Latest history document id) : ⟨.start document, some id⟩ ∈ history := by
  obtain ⟨before, after, rfl, -⟩ := latest
  simp

/-- The tracker is what its history says. -/
structure Follows (t : Tracker) (history : List Performed) : Prop where
  issued : t.issued = startCount history
  /-- Starts return numbers, and nothing else does. -/
  returned : ∀ event ∈ history, event.returned.isSome = event.action.isStart
  /-- The numbers are 1, 2, 3, … in the order of the starts. -/
  numbers : history.filterMap (·.returned) = List.range' 1 (startCount history)
  active : ∀ document id, t.isActive document id = true ↔ Latest history document id

theorem follows_empty : empty.Follows [] where
  issued := rfl
  returned := by simp
  numbers := rfl
  active := by
    intro document id
    rw [isActive_iff]
    simp [empty, Latest]

section Perform

variable {t : Tracker} {history : List Performed}

/-- What an action does to one request, active or not. -/
theorem isActive_perform (t : Tracker) (action : Action) (document : String) (id : RequestId) :
    (t.perform action).1.isActive document id = true ↔
      (⟨action, (t.perform action).2⟩ : Performed) = ⟨.start document, some id⟩ ∨
        t.isActive document id = true ∧ ¬ action.Ends document id := by
  rw [isActive_iff, isActive_iff]
  cases action with
  | start started =>
    rw [perform, newest_start]
    by_cases same : started = document <;> simp [Action.Ends, same, start]
  | finish finished number =>
    rw [perform, newest_finish_eq_some_iff]
    simp [Action.Ends]
  | cancel cancelled =>
    rw [perform, newest_cancel]
    by_cases same : cancelled = document <;> simp [Action.Ends, same]

theorem isActive_perform_other {action : Action} {document : String}
    (other : action.document ≠ document) (t : Tracker) (id : RequestId) :
    (t.perform action).1.isActive document id = t.isActive document id := by
  rw [Bool.eq_iff_iff, isActive_perform]
  have spared : ¬ action.Ends document id := by
    rintro (rfl | rfl | rfl) <;> exact other rfl
  have notStarted : (⟨action, (t.perform action).2⟩ : Performed) ≠ ⟨.start document, some id⟩ := by
    intro same
    exact spared (Or.inl (congrArg Performed.action same))
  simp [spared, notStarted]

theorem startCount_snoc (history : List Performed) (event : Performed) :
    startCount (history ++ [event]) = startCount history + event.action.isStart.toNat := by
  rw [startCount, List.countP_append, List.countP_singleton, ← startCount]
  cases event.action.isStart <;> rfl

theorem Follows.perform (follows : t.Follows history) (action : Action) :
    (t.perform action).1.Follows (history ++ [⟨action, (t.perform action).2⟩]) where
  issued := by
    rw [startCount_snoc, ← follows.issued]
    cases action with
    | start => rfl
    | finish document id => exact issued_finish t document id
    | cancel => rfl
  returned := by
    rw [List.forall_mem_append, List.forall_mem_singleton]
    refine ⟨follows.returned, ?_⟩
    cases action <;> rfl
  numbers := by
    rw [List.filterMap_append, follows.numbers, startCount_snoc]
    cases action with
    | start =>
      have next : 1 + startCount history = t.issued + 1 := by rw [follows.issued, Nat.add_comm]
      simp [Tracker.perform, start, Action.isStart, List.range'_concat, next]
    | finish => simp [Tracker.perform, Action.isStart]
    | cancel => simp [Tracker.perform, Action.isStart]
  active := by
    intro document id
    rw [isActive_perform, latest_snoc, follows.active]

/-- A number belongs to one start, and so to one document. -/
theorem Follows.document_unique (follows : t.Follows history) {document other : String}
    {id : RequestId} (active : t.isActive document id = true) (active' : t.isActive other id = true) :
    document = other := by
  have distinct : (history.filterMap (·.returned)).Nodup := by
    rw [follows.numbers]
    exact List.nodup_range'
  have started := ((follows.active other id).mp active').mem
  obtain ⟨before, after, rfl, -⟩ := (follows.active document id).mp active
  have alone : id ∉ before.filterMap (·.returned) ++ after.filterMap (·.returned) := by
    rw [List.filterMap_append, List.filterMap_cons] at distinct
    exact (List.nodup_cons.mp (List.nodup_middle.mp distinct)).1
  rw [← List.filterMap_append] at alone
  rw [List.mem_append, List.mem_cons, or_left_comm, ← List.mem_append] at started
  rcases started with same | elsewhere
  · cases same
    rfl
  · have returned : id ∈ (before ++ after).filterMap (·.returned) :=
      List.mem_filterMap.mpr ⟨_, elsewhere, rfl⟩
    exact absurd returned alone

end Perform

theorem isActive_unique {t : Tracker} {document : String} {id id' : RequestId}
    (active : t.isActive document id = true) (active' : t.isActive document id' = true) :
    id = id' :=
  Option.some.inj ((isActive_iff.mp active).symm.trans (isActive_iff.mp active'))

end Tracker

/-- Trackers with their clones. All names of a tracker stand for one state, and what is done through
any of them is the history of that state. -/
structure SharedTrackers where
  states : List (Tracker × List Tracker.Performed)
  names : List Nat

namespace SharedTrackers

open Tracker (Action Performed)

/-- A tracker is made or cloned, or something is done through a name. -/
inductive Use where
  | new
  | clone (name : Nat)
  | act (name : Nat) (action : Action)

def initial : SharedTrackers := ⟨[(.empty, [])], [0]⟩

def record (action : Action) (state : Tracker × List Performed) : Tracker × List Performed :=
  let (t, returned) := state.1.perform action
  (t, state.2 ++ [⟨action, returned⟩])

def step (s : SharedTrackers) : Use → SharedTrackers
  | .new => ⟨s.states ++ [(.empty, [])], s.names ++ [s.states.length]⟩
  | .clone name => { s with names := s.names ++ s.names[name]?.toList }
  | .act name action =>
    match s.names[name]? with
    | some place => { s with states := s.states.modify place (record action) }
    | none => s

def run (s : SharedTrackers) (uses : List Use) : SharedTrackers := uses.foldl step s

def state? (s : SharedTrackers) (name : Nat) : Option (Tracker × List Performed) :=
  s.names[name]?.bind (s.states[·]?)

def isActive (s : SharedTrackers) (name : Nat) (document : String) (id : RequestId) : Bool :=
  (s.state? name).any fun (t, _) => t.isActive document id

/-- Every name has a state, and every state is what its history says. -/
structure Valid (s : SharedTrackers) : Prop where
  named : ∀ place ∈ s.names, place < s.states.length
  follows : ∀ state ∈ s.states, state.1.Follows state.2

theorem valid_initial : initial.Valid where
  named := by simp [initial]
  follows := List.forall_mem_singleton.mpr Tracker.follows_empty

theorem Valid.step {s : SharedTrackers} (valid : s.Valid) (use : Use) : (s.step use).Valid := by
  obtain ⟨named, follows⟩ := valid
  cases use with
  | new =>
    constructor
    · intro place member
      rw [SharedTrackers.step, List.length_append, List.length_singleton]
      rcases List.mem_append.mp member with old | fresh
      · exact Nat.lt_succ_of_lt (named place old)
      · rw [List.mem_singleton.mp fresh]
        exact Nat.lt_succ_self _
    · exact List.forall_mem_append.mpr
        ⟨follows, List.forall_mem_singleton.mpr Tracker.follows_empty⟩
  | clone name =>
    refine ⟨?_, follows⟩
    intro place member
    rcases List.mem_append.mp member with old | fresh
    · exact named place old
    · exact named place (List.mem_of_getElem? (Option.mem_toList.mp fresh))
  | act name action =>
    rw [SharedTrackers.step]
    split
    next place found =>
      constructor
      · simpa using named
      · intro state member
        obtain ⟨other, there⟩ := List.mem_iff_getElem?.mp member
        rw [List.getElem?_modify] at there
        obtain ⟨old, before, rfl⟩ := Option.map_eq_some_iff.mp there
        have kept := follows old (List.mem_of_getElem? before)
        split
        · exact kept.perform action
        · exact kept
    next => exact ⟨named, follows⟩

theorem Valid.run {s : SharedTrackers} (valid : s.Valid) (uses : List Use) : (s.run uses).Valid := by
  induction uses generalizing s with
  | nil => exact valid
  | cons use rest ih => exact ih (valid.step use)

theorem Valid.exists_state {s : SharedTrackers} (valid : s.Valid) {name : Nat}
    (known : name < s.names.length) :
    ∃ t history, s.state? name = some (t, history) ∧ t.Follows history := by
  have bound := valid.named _ (List.getElem_mem known)
  refine ⟨_, _, ?_, valid.follows _ (List.getElem_mem bound)⟩
  rw [state?, List.getElem?_eq_getElem known, Option.bind_some, List.getElem?_eq_getElem bound]

/-- A name never changes its tracker. -/
theorem names_step (s : SharedTrackers) (use : Use) : s.names <+: (s.step use).names := by
  cases use with
  | new => exact List.prefix_append _ _
  | clone name => exact List.prefix_append _ _
  | act name action =>
    rw [step]
    split <;> exact List.prefix_rfl

theorem names_run (s : SharedTrackers) (uses : List Use) : s.names <+: (s.run uses).names := by
  induction uses generalizing s with
  | nil => exact List.prefix_rfl
  | cons use rest ih => exact (names_step s use).trans (ih (s.step use))

theorem state?_run {s : SharedTrackers} {name place : Nat} (named : s.names[name]? = some place)
    (uses : List Use) : (s.run uses).state? name = (s.run uses).states[place]? := by
  obtain ⟨more, grown⟩ := names_run s uses
  obtain ⟨bound, -⟩ := List.getElem?_eq_some_iff.mp named
  rw [state?, ← grown, List.getElem?_append_left bound, named, Option.bind_some]

/-- A clone shows the same state as its tracker, whatever is done afterwards and through whom. -/
theorem state?_clone {s : SharedTrackers} {name : Nat} (known : name < s.names.length)
    (uses : List Use) :
    ((s.step (.clone name)).run uses).state? s.names.length =
      ((s.step (.clone name)).run uses).state? name := by
  have found : s.names[name]? = some s.names[name] := List.getElem?_eq_getElem known
  have cloned : (s.step (.clone name)).names = s.names ++ [s.names[name]] := by
    rw [step, found, Option.toList_some]
  have first : (s.step (.clone name)).names[name]? = some s.names[name] := by
    rw [cloned, List.getElem?_append_left known, found]
  have second : (s.step (.clone name)).names[s.names.length]? = some s.names[name] := by
    rw [cloned, List.getElem?_concat_length]
  rw [state?_run first, state?_run second]

/-- An action is recorded for all names of its tracker, and for no other. -/
theorem state?_act (s : SharedTrackers) (name other : Nat) (action : Action) :
    (s.step (.act other action)).state? name =
      if s.names[name]? = s.names[other]? then (s.state? name).map (record action)
      else s.state? name := by
  rw [step]
  cases found : s.names[other]? with
  | none => cases named : s.names[name]? <;> simp [state?, named]
  | some place =>
    cases named : s.names[name]? with
    | none => simp [state?, named]
    | some there =>
      by_cases same : there = place
      · simp [state?, named, same, List.getElem?_modify]
      · simp [state?, named, same, Ne.symm same, List.getElem?_modify]

theorem isActive_act {s : SharedTrackers} {action : Action} {document : String}
    (apart : action.document ≠ document) (name other : Nat) (id : RequestId) :
    (s.step (.act other action)).isActive name document id = s.isActive name document id := by
  rw [isActive, isActive, state?_act]
  split
  · cases s.state? name with
    | none => rfl
    | some state => exact Tracker.isActive_perform_other apart state.1 id
  · rfl

end SharedTrackers

/-- A tracker and its clones over any history of starts, finishes and cancellations. The starts return
1, 2, 3, …, which are words as long as the starts are few enough. A request is active exactly when the
latest start of its document returned its number and nothing has ended it since; so a document has at
most one active request, a number is active for one document only, and what is done for one document
does not concern another. The history is what was done through any name of the tracker, and a clone is
one more name for good. -/
theorem tracker_follows_history (uses : List SharedTrackers.Use) {name : Nat}
    (known : name < (SharedTrackers.initial.run uses).names.length) :
    let s := SharedTrackers.initial.run uses
    ∃ t history, s.state? name = some (t, history) ∧
      (∀ event ∈ history, event.returned.isSome = event.action.isStart) ∧
      history.filterMap (·.returned) = List.range' 1 (Tracker.startCount history) ∧
      (Tracker.startCount history < UInt64.size →
        ∀ id ∈ history.filterMap (·.returned), id < UInt64.size) ∧
      (∀ document id, s.isActive name document id = true ↔ Tracker.Latest history document id) ∧
      (∀ document id id', s.isActive name document id = true →
        s.isActive name document id' = true → id = id') ∧
      (∀ document document' id, s.isActive name document id = true →
        s.isActive name document' id = true → document = document') ∧
      (∀ other action document id, action.document ≠ document →
        (s.step (.act other action)).isActive name document id = s.isActive name document id) ∧
      (∀ other action, (s.step (.act other action)).state? name =
        some (if s.names[name]? = s.names[other]? then
          SharedTrackers.record action (t, history) else (t, history))) ∧
      ∀ more, ((s.step (.clone name)).run more).state? s.names.length =
        ((s.step (.clone name)).run more).state? name := by
  intro s
  obtain ⟨t, history, found, follows⟩ :=
    (SharedTrackers.valid_initial.run uses).exists_state known
  have seen (document : String) (id : RequestId) :
      s.isActive name document id = t.isActive document id := by
    rw [SharedTrackers.isActive, found, Option.any_some]
  refine ⟨t, history, found, follows.returned, follows.numbers, ?_, ?_, ?_, ?_, ?_, ?_, ?_⟩
  · intro few id member
    rw [follows.numbers, List.mem_range'_1] at member
    omega
  · intro document id
    rw [seen, follows.active]
  · intro document id id' active active'
    rw [seen] at active active'
    exact Tracker.isActive_unique active active'
  · intro document document' id active active'
    rw [seen] at active active'
    exact follows.document_unique active active'
  · intro other action document id apart
    exact SharedTrackers.isActive_act apart name other id
  · intro other action
    rw [SharedTrackers.state?_act, found]
    split <;> rfl
  · exact SharedTrackers.state?_clone known

/-- A stale, a foreign and an unknown number are finished through either of two clones, a document is
cancelled, and a tracker of its own counts anew. -/
theorem tracker_follows_history_of_clones :
    let uses : List SharedTrackers.Use := [.act 0 (.start "a"), .clone 0, .act 1 (.start "a"),
      .act 0 (.finish "a" 1), .act 1 (.start "b"), .act 0 (.finish "b" 2), .new,
      .act 2 (.start "a"), .act 1 (.finish "a" 7), .act 0 (.start "c"), .act 1 (.cancel "c")]
    let s := SharedTrackers.initial.run uses
    s.names = [0, 0, 1] ∧ s.isActive 1 "a" 2 = true ∧ s.isActive 1 "b" 3 = true ∧
      s.isActive 1 "c" 4 = false ∧ s.isActive 2 "a" 1 = true := by
  intro uses s
  have shared : (s.state? 1).map Prod.snd = some ([⟨.start "a", some 1⟩, ⟨.start "a", some 2⟩,
      ⟨.finish "a" 1, none⟩, ⟨.start "b", some 3⟩, ⟨.finish "b" 2, none⟩, ⟨.finish "a" 7, none⟩,
      ⟨.start "c", some 4⟩] ++ [⟨.cancel "c", none⟩]) := by
    simp [s, uses, SharedTrackers.run, SharedTrackers.step, SharedTrackers.initial,
      SharedTrackers.state?, SharedTrackers.record, Tracker.perform, Tracker.start, Tracker.empty]
  have own : (s.state? 2).map Prod.snd = some [⟨.start "a", some 1⟩] := rfl
  have clone : 1 < s.names.length := by decide
  have third : 2 < s.names.length := by decide
  obtain ⟨t, history, found, -, -, -, active, -⟩ := tracker_follows_history uses clone
  obtain ⟨_, _, foundOwn, -, -, -, activeOwn, -⟩ := tracker_follows_history uses third
  rw [show s.state? 1 = _ from found] at shared
  rw [show s.state? 2 = _ from foundOwn] at own
  obtain rfl := Option.some.inj shared
  obtain rfl := Option.some.inj own
  refine ⟨rfl, (active "a" 2).mpr ?_, (active "b" 3).mpr ?_, ?_, (activeOwn "a" 1).mpr ?_⟩
  · exact ⟨[⟨.start "a", some 1⟩], _, rfl, by simp [Tracker.Action.Ends]⟩
  · exact ⟨[⟨.start "a", some 1⟩, ⟨.start "a", some 2⟩, ⟨.finish "a" 1, none⟩], _, rfl,
      by simp [Tracker.Action.Ends]⟩
  · rw [Bool.eq_false_iff]
    intro cancelled
    rcases Tracker.latest_snoc.mp ((active "c" 4).mp cancelled) with started | ⟨-, kept⟩
    · contradiction
    · exact kept (Or.inr (Or.inr rfl))
  · exact ⟨[], [], rfl, by simp⟩

end EndpointUri
