import EndpointUri.Catalog.Handle

/-!
A handle shared by many calls in any interleaving. Loads follow one another, the first that succeeds
is the last, and its catalog is what every call that succeeds returns.
-/
namespace EndpointUri

namespace Handle

variable {h : Handle} {id : CallId} {catalog : Catalog}

theorem request_loaded (loaded : h.loaded = some catalog) (id : CallId) :
    (h.request id).value = (h, some catalog) := by
  simp [request, loaded]

theorem request_free (unloaded : h.loaded = none) (free : h.loading = none)
    (empty : h.waiting = []) (id : CallId) :
    (h.request id).value = ({ h with loads := h.loads + 1, loading := some id }, none) := by
  simp [request, unloaded, free, empty, beginLoad]

theorem request_busy (unloaded : h.loaded = none) (busy : ¬ (h.loading = none ∧ h.waiting = []))
    (id : CallId) :
    (h.request id).value = ({ h with waiting := h.waiting ++ [id] }, none) := by
  have refused : ¬ (h.loading.isNone && h.waiting.isEmpty) = true := by simpa using busy
  simp only [request, unloaded]
  rw [if_neg refused]
  rfl

theorem settle_ok (loading : h.loading = some id)
    (found : (h.source (h.loads - 1)).value = .ok catalog) :
    h.settle.value = ({ h with loaded := some catalog, loading := none, waiting := [] },
      (id :: h.waiting).map fun waiter => (waiter, .ok catalog)) := by
  simp [settle, loading, found]

theorem settle_error {fault : CatalogError} (loading : h.loading = some id)
    (failed : (h.source (h.loads - 1)).value = .error fault) :
    h.settle.value = ({ h with loading := none }, [(id, .error fault)]) := by
  simp [settle, loading, failed]

theorem promote_next {rest : List CallId} (free : h.loading = none)
    (line : h.waiting = id :: rest) :
    h.promote.value =
      { h with waiting := rest, loads := h.loads + 1, loading := some id } := by
  simp [promote, free, line, beginLoad]

/-- The calls that are not served yet, in order: the one that loads and those behind it. -/
def line (h : Handle) : List CallId := h.loading.toList ++ h.waiting

/-- The caller of the load that has begun from one state to the next, if one has. -/
def newLoad (before after : Handle) : List CallId :=
  if before.loads = after.loads then [] else after.loading.toList

end Handle

/-- A call starts, or one that has started goes on. -/
inductive Turn where
  | call
  | resume (id : CallId)

/-- A handle and what has happened on it. Calls are numbered in the order in which they start. -/
structure SharedHandle where
  handle : Handle
  calls : Nat
  begun : List CallId
  /-- The loads that have ended, with their callers. -/
  ended : List (CallId × Except CatalogError Catalog)
  results : List (CallId × Except CatalogError Catalog)

namespace SharedHandle

def ofSource (source : Nat → Load) : SharedHandle := ⟨Handle.ofSource source, 0, [], [], []⟩

/-- A call that loads goes on when its load has ended. The first in line goes on when no load is in
flight, and then begins its own. No other call has anything to do: it waits, or it has its result. -/
def step (s : SharedHandle) : Turn → SharedHandle
  | .call =>
    let (handle, served) := (s.handle.request s.calls).value
    { s with
      handle
      calls := s.calls + 1
      begun := s.begun ++ s.handle.newLoad handle
      results := s.results ++ (served.map fun catalog => (s.calls, .ok catalog)).toList }
  | .resume id =>
    if s.handle.loading = some id then
      let (handle, served) := s.handle.settle.value
      -- The caller of the load is served before all others.
      { s with handle, ended := s.ended ++ served.take 1, results := s.results ++ served }
    else if s.handle.loading = none ∧ s.handle.waiting.head? = some id then
      let handle := s.handle.promote.value
      { s with handle, begun := s.begun ++ s.handle.newLoad handle }
    else s

def run (s : SharedHandle) (turns : List Turn) : SharedHandle := turns.foldl step s

/-! ### One turn -/

/-- All that one turn can do. -/
inductive Effect (s : SharedHandle) : Turn → SharedHandle → Prop
  | served {catalog : Catalog} (loaded : s.handle.loaded = some catalog) :
    Effect s .call
      { s with calls := s.calls + 1, results := s.results ++ [(s.calls, .ok catalog)] }
  | began (unloaded : s.handle.loaded = none) (free : s.handle.loading = none)
      (empty : s.handle.waiting = []) :
    Effect s .call
      { s with
        handle.loads := s.handle.loads + 1
        handle.loading := some s.calls
        calls := s.calls + 1
        begun := s.begun ++ [s.calls] }
  | joined (unloaded : s.handle.loaded = none)
      (busy : ¬ (s.handle.loading = none ∧ s.handle.waiting = [])) :
    Effect s .call
      { s with handle.waiting := s.handle.waiting ++ [s.calls], calls := s.calls + 1 }
  | succeeded {id : CallId} {catalog : Catalog} (loading : s.handle.loading = some id)
      (found : (s.handle.source (s.handle.loads - 1)).value = .ok catalog) :
    Effect s (.resume id)
      { s with
        handle.loaded := some catalog
        handle.loading := none
        handle.waiting := []
        ended := s.ended ++ [(id, .ok catalog)]
        results := s.results ++ (id :: s.handle.waiting).map fun call => (call, .ok catalog) }
  | failed {id : CallId} {fault : CatalogError} (loading : s.handle.loading = some id)
      (failure : (s.handle.source (s.handle.loads - 1)).value = .error fault) :
    Effect s (.resume id)
      { s with
        handle.loading := none
        ended := s.ended ++ [(id, .error fault)]
        results := s.results ++ [(id, .error fault)] }
  | tookOver {id : CallId} {rest : List CallId} (free : s.handle.loading = none)
      (line : s.handle.waiting = id :: rest) :
    Effect s (.resume id)
      { s with
        handle.waiting := rest
        handle.loads := s.handle.loads + 1
        handle.loading := some id
        begun := s.begun ++ [id] }
  | nothing {id : CallId} (notLoading : s.handle.loading ≠ some id)
      (notNext : ¬ (s.handle.loading = none ∧ s.handle.waiting.head? = some id)) :
    Effect s (.resume id) s

theorem step_effect (s : SharedHandle) (turn : Turn) : Effect s turn (s.step turn) := by
  cases turn with
  | call =>
    cases loaded : s.handle.loaded with
    | some catalog =>
      simpa [step, Handle.request_loaded loaded, Handle.newLoad] using Effect.served loaded
    | none =>
      by_cases idle : s.handle.loading = none ∧ s.handle.waiting = []
      · simpa [step, Handle.request_free loaded idle.1 idle.2, Handle.newLoad]
          using Effect.began loaded idle.1 idle.2
      · simpa [step, Handle.request_busy loaded idle, Handle.newLoad]
          using Effect.joined loaded idle
  | resume id =>
    by_cases loading : s.handle.loading = some id
    · cases outcome : (s.handle.source (s.handle.loads - 1)).value with
      | ok catalog =>
        simpa [step, loading, Handle.settle_ok loading outcome]
          using Effect.succeeded loading outcome
      | error fault =>
        simpa [step, loading, Handle.settle_error loading outcome]
          using Effect.failed loading outcome
    · by_cases next : s.handle.loading = none ∧ s.handle.waiting.head? = some id
      · obtain ⟨rest, line⟩ := List.head?_eq_some_iff.mp next.2
        simpa [step, next.1, line, Handle.promote_next next.1 line, Handle.newLoad]
          using Effect.tookOver next.1 line
      · have unchanged : s.step (.resume id) = s := by
          simp only [step]
          rw [if_neg loading, if_neg next]
        rw [unchanged]
        exact .nothing loading next

/-! ### Every run -/

/-- All of these loads failed, or all of these calls did. -/
def AllFailed (entries : List (CallId × Except CatalogError Catalog)) : Prop :=
  ∀ entry ∈ entries, entry.2.isOk = false

/-- Until a load succeeds, a call returns only the failure of its own load. The load that succeeds
is the last, and its catalog goes to its caller, to all who wait and to all who come later. -/
inductive Phase (s : SharedHandle) : Prop
  | pending (unloaded : s.handle.loaded = none) (failed : AllFailed s.ended)
      (results : s.results = s.ended)
  | settled {catalog : Catalog} {failures : List (CallId × Except CatalogError Catalog)}
      {id : CallId} (loaded : s.handle.loaded = some catalog) (free : s.handle.loading = none)
      (empty : s.handle.waiting = []) (failed : AllFailed failures)
      (ended : s.ended = failures ++ [(id, .ok catalog)])
      (results : ∃ others : List CallId,
        s.results = failures ++ (id :: others).map fun call => (call, .ok catalog))

structure Valid (source : Nat → Load) (s : SharedHandle) : Prop where
  source_eq : s.handle.source = source
  counted : s.handle.loads = s.begun.length
  oneByOne : s.begun = s.ended.map Prod.fst ++ s.handle.loading.toList
  inOrder : s.ended.map Prod.snd =
    (List.range s.ended.length).map fun number => (source number).value
  /-- Each call that has started has its result, loads or waits. -/
  accounted : (s.results.map Prod.fst ++ (s.handle.loading.toList ++ s.handle.waiting)).Perm
    (List.range s.calls)
  phase : s.Phase

variable {source : Nat → Load} {s t : SharedHandle} {turn : Turn}

theorem valid_ofSource (source : Nat → Load) : (ofSource source).Valid source where
  source_eq := rfl
  counted := rfl
  oneByOne := rfl
  inOrder := rfl
  accounted := .refl _
  phase := .pending rfl (by simp [AllFailed, ofSource]) rfl

theorem Valid.loads_of_loading (valid : s.Valid source) {id : CallId}
    (loading : s.handle.loading = some id) : s.handle.loads = s.ended.length + 1 := by
  simp [valid.counted, valid.oneByOne, loading]

theorem Valid.unloaded_of_busy (valid : s.Valid source)
    (busy : ¬ (s.handle.loading = none ∧ s.handle.waiting = [])) : s.handle.loaded = none := by
  cases valid.phase with
  | pending unloaded => exact unloaded
  | settled _ free empty => exact absurd ⟨free, empty⟩ busy

theorem Valid.failed_of_unloaded (valid : s.Valid source) (unloaded : s.handle.loaded = none) :
    AllFailed s.ended ∧ s.results = s.ended := by
  cases valid.phase with
  | pending _ failed results => exact ⟨failed, results⟩
  | settled loaded => simp [loaded] at unloaded

@[simp] theorem isOk_ok (catalog : Catalog) :
    (.ok catalog : Except CatalogError Catalog).isOk = true := rfl

@[simp] theorem isOk_error (fault : CatalogError) :
    (.error fault : Except CatalogError Catalog).isOk = false := rfl

theorem AllFailed.append {entries : List (CallId × Except CatalogError Catalog)}
    (failed : AllFailed entries) (id : CallId) (fault : CatalogError) :
    AllFailed (entries ++ [(id, .error fault)]) := by
  intro entry member
  rcases List.mem_append.mp member with before | last
  · exact failed entry before
  · rw [List.mem_singleton.mp last]
    rfl

theorem Valid.inOrder_append (valid : s.Valid source) {id : CallId}
    (loading : s.handle.loading = some id) {outcome : Except CatalogError Catalog}
    (settled : (source (s.handle.loads - 1)).value = outcome) :
    (s.ended ++ [(id, outcome)]).map Prod.snd =
      (List.range (s.ended ++ [(id, outcome)]).length).map fun number => (source number).value := by
  have number : s.handle.loads - 1 = s.ended.length := by
    rw [valid.loads_of_loading loading, Nat.add_sub_cancel]
  rw [number] at settled
  simp [List.range_succ, valid.inOrder, settled]

theorem Effect.valid (effect : Effect s turn t) (valid : s.Valid source) : t.Valid source := by
  obtain rfl := valid.source_eq
  -- Only a call that is served at once finds a catalog. In all other cases the handle is unloaded,
  -- so what has been returned so far is what has failed so far.
  cases effect with
  | served loaded =>
    cases valid.phase with
    | pending unloaded => simp [unloaded] at loaded
    | settled stored free empty failed ended results =>
      obtain rfl := Option.some.inj (stored.symm.trans loaded)
      obtain ⟨others, results⟩ := results
      refine ⟨rfl, valid.counted, valid.oneByOne, valid.inOrder, ?_, ?_⟩
      · simpa [free, empty, List.range_succ] using valid.accounted.append_right [s.calls]
      · exact .settled stored free empty failed ended ⟨others ++ [s.calls], by simp [results]⟩
  | began unloaded free empty =>
    refine ⟨rfl, ?_, ?_, valid.inOrder, ?_, ?_⟩
    · simp [valid.counted]
    · simp [valid.oneByOne, free]
    · simpa [free, empty, List.range_succ] using valid.accounted.append_right [s.calls]
    · obtain ⟨failed, results⟩ := valid.failed_of_unloaded unloaded
      exact .pending unloaded failed results
  | joined unloaded busy =>
    refine ⟨rfl, valid.counted, valid.oneByOne, valid.inOrder, ?_, ?_⟩
    · simpa [List.range_succ] using valid.accounted.append_right [s.calls]
    · obtain ⟨failed, results⟩ := valid.failed_of_unloaded unloaded
      exact .pending unloaded failed results
  | succeeded loading found =>
    have unloaded := valid.unloaded_of_busy (by simp [loading])
    obtain ⟨failed, results⟩ := valid.failed_of_unloaded unloaded
    refine ⟨rfl, valid.counted, ?_, valid.inOrder_append loading found, ?_, ?_⟩
    · simp [valid.oneByOne, loading]
    · simpa [loading, Function.comp_def] using valid.accounted
    · exact .settled rfl rfl rfl failed rfl ⟨s.handle.waiting, by simp [results]⟩
  | failed loading failure =>
    have unloaded := valid.unloaded_of_busy (by simp [loading])
    obtain ⟨failed, results⟩ := valid.failed_of_unloaded unloaded
    refine ⟨rfl, valid.counted, ?_, valid.inOrder_append loading failure, ?_, ?_⟩
    · simp [valid.oneByOne, loading]
    · simpa [loading] using valid.accounted
    · exact .pending unloaded (failed.append _ _) (by simp [results])
  | tookOver free line =>
    have unloaded := valid.unloaded_of_busy (by simp [line])
    obtain ⟨failed, results⟩ := valid.failed_of_unloaded unloaded
    refine ⟨rfl, ?_, ?_, valid.inOrder, ?_, ?_⟩
    · simp [valid.counted]
    · simp [valid.oneByOne, free]
    · simpa [free, line] using valid.accounted
    · exact .pending unloaded failed results
  | nothing => exact valid

theorem Valid.run (valid : s.Valid source) (turns : List Turn) : (s.run turns).Valid source := by
  induction turns generalizing s with
  | nil => exact valid
  | cons turn rest ih => exact ih ((step_effect s turn).valid valid)

/-! ### One load that succeeds -/

theorem Valid.outcome (valid : s.Valid source) {number : Nat}
    {entry : CallId × Except CatalogError Catalog} (place : s.ended[number]? = some entry) :
    (source number).value = entry.2 := by
  have inside : number < s.ended.length := (List.getElem?_eq_some_iff.mp place).1
  have same := congrArg (·[number]?) valid.inOrder
  simp only [List.getElem?_map, place, List.getElem?_range inside, Option.map_some] at same
  exact (Option.some.inj same).symm

theorem Valid.ended_sublist (valid : s.Valid source) : s.ended.Sublist s.results := by
  cases valid.phase with
  | pending _ _ results => exact results ▸ List.Sublist.refl _
  | settled _ _ _ _ ended results =>
    obtain ⟨others, results⟩ := results
    rw [ended, results]
    exact ((List.nil_sublist _).cons_cons _).append_left _

theorem Valid.begun_nodup (valid : s.Valid source) : s.begun.Nodup := by
  have distinct := valid.accounted.nodup_iff.mpr List.nodup_range
  rw [valid.oneByOne]
  exact distinct.sublist
    ((valid.ended_sublist.map Prod.fst).append (List.sublist_append_left _ _))

theorem Valid.loaded_of_ok (valid : s.Valid source) {id : CallId} {catalog : Catalog}
    (member : (id, .ok catalog) ∈ s.results) : s.handle.loaded = some catalog := by
  cases valid.phase with
  | pending _ failed results =>
    rw [results] at member
    exact absurd (failed _ member) (by simp)
  | settled loaded _ _ failed _ results =>
    obtain ⟨others, results⟩ := results
    rw [results] at member
    rcases List.mem_append.mp member with early | late
    · exact absurd (failed _ early) (by simp)
    · obtain ⟨_, _, same⟩ := List.mem_map.mp late
      rw [loaded, Except.ok.inj (Prod.mk.inj same).2]

theorem Valid.error_mem_ended (valid : s.Valid source) {id : CallId} {fault : CatalogError}
    (member : (id, .error fault) ∈ s.results) : (id, .error fault) ∈ s.ended := by
  cases valid.phase with
  | pending _ _ results => rwa [results] at member
  | settled _ _ _ _ ended results =>
    obtain ⟨others, results⟩ := results
    rw [results] at member
    rw [ended]
    rcases List.mem_append.mp member with early | late
    · exact List.mem_append_left _ early
    · simp at late

/-- The first load of the source that succeeds, and its catalog. -/
def FirstSuccess (source : Nat → Load) (number : Nat) (catalog : Catalog) : Prop :=
  (source number).value = .ok catalog ∧ ∀ earlier < number, (source earlier).value.isOk = false

theorem Valid.firstSuccess (valid : s.Valid source) {catalog : Catalog}
    (loaded : s.handle.loaded = some catalog) :
    ∃ number, s.ended.length = number + 1 ∧ FirstSuccess source number catalog := by
  cases valid.phase with
  | pending unloaded => simp [unloaded] at loaded
  | @settled _ failures id stored _ _ failed ended =>
    obtain rfl := Option.some.inj (loaded.symm.trans stored)
    refine ⟨failures.length, by simp [ended], ?_, ?_⟩
    · have place : s.ended[failures.length]? = some (id, .ok catalog) := by simp [ended]
      exact valid.outcome place
    · intro earlier before
      have place : s.ended[earlier]? = some (failures.get ⟨earlier, before⟩) := by
        simp [ended, List.getElem?_append_left before]
      rw [valid.outcome place]
      exact failed _ (List.get_mem ..)

theorem Effect.ended_grows (effect : Effect s turn t) : s.ended <+: t.ended := by
  cases effect <;> simp

theorem ended_grows_run (s : SharedHandle) (turns : List Turn) :
    s.ended <+: (s.run turns).ended := by
  induction turns generalizing s with
  | nil => exact List.prefix_rfl
  | cons turn rest ih => exact (step_effect s turn).ended_grows.trans (ih _)

theorem Effect.loaded (effect : Effect s turn t) (valid : s.Valid source) {catalog : Catalog}
    (loaded : s.handle.loaded = some catalog) :
    t.handle.loaded = some catalog ∧ t.begun = s.begun := by
  have idle : s.handle.loading = none ∧ s.handle.waiting = [] :=
    Decidable.byContradiction fun busy => by simp [valid.unloaded_of_busy busy] at loaded
  cases effect with
  | served => exact ⟨loaded, rfl⟩
  | began unloaded => simp [loaded] at unloaded
  | joined _ busy => exact absurd idle busy
  | succeeded loading => simp [idle.1] at loading
  | failed loading => simp [idle.1] at loading
  | tookOver _ line => simp [idle.2] at line
  | nothing => exact ⟨loaded, rfl⟩

theorem Valid.loaded_run (valid : s.Valid source) {catalog : Catalog}
    (loaded : s.handle.loaded = some catalog) (turns : List Turn) :
    (s.run turns).handle.loaded = some catalog ∧ (s.run turns).begun = s.begun := by
  induction turns generalizing s with
  | nil => exact ⟨loaded, rfl⟩
  | cons turn rest ih =>
    have effect := step_effect s turn
    obtain ⟨stays, begun⟩ := effect.loaded valid loaded
    obtain ⟨later, begunLater⟩ := ih (effect.valid valid) stays
    exact ⟨later, begunLater.trans begun⟩

theorem AllFailed.countP_eq {entries : List (CallId × Except CatalogError Catalog)}
    (failed : AllFailed entries) :
    entries.countP (fun entry => !entry.2.isOk) = entries.length := by
  rw [List.countP_eq_length]
  intro entry member
  simp [failed entry member]

theorem Valid.loads_eq (valid : s.Valid source) :
    s.handle.loads = s.ended.countP (fun entry => !entry.2.isOk) +
      (if s.handle.isLoaded then 1 else 0) + (if s.handle.loading.isSome then 1 else 0) := by
  have inFlight : s.handle.loading.toList.length = if s.handle.loading.isSome then 1 else 0 := by
    cases s.handle.loading <;> rfl
  have made : s.handle.loads = s.ended.length + s.handle.loading.toList.length := by
    simp [valid.counted, valid.oneByOne]
  rw [made, inFlight]
  cases valid.phase with
  | pending unloaded failed => simp [failed.countP_eq, Handle.isLoaded, unloaded]
  | settled loaded _ _ failed ended =>
    simp [ended, failed.countP_eq, Handle.isLoaded, loaded]

theorem begun_step_call (unloaded : s.handle.loaded = none) (free : s.handle.loading = none)
    (empty : s.handle.waiting = []) : (s.step .call).begun = s.begun ++ [s.calls] := by
  have effect := step_effect s .call
  generalize s.step .call = t at effect
  cases effect with
  | served loaded => simp [unloaded] at loaded
  | began => rfl
  | joined _ busy => exact absurd ⟨free, empty⟩ busy

theorem begun_step_resume {next : CallId} {rest : List CallId} (free : s.handle.loading = none)
    (line : s.handle.waiting = next :: rest) :
    (s.step (.resume next)).begun = s.begun ++ [next] := by
  have effect := step_effect s (.resume next)
  generalize s.step (.resume next) = t at effect
  cases effect with
  | succeeded loading => simp [free] at loading
  | failed loading => simp [free] at loading
  | tookOver => rfl
  | nothing _ notNext => simp [free, line] at notNext

theorem Valid.unloaded_of_allFailed (valid : s.Valid source) (failed : AllFailed s.ended) :
    s.handle.loaded = none := by
  cases valid.phase with
  | pending unloaded => exact unloaded
  | settled _ _ _ _ ended =>
    exact absurd (failed _ (ended ▸ List.mem_append_right _ List.mem_cons_self)) (by simp)

/-- A call that starts when all loads have failed, and none is in flight, sees a new load. -/
theorem Valid.begun_of_returned (valid : s.Valid source) (failed : AllFailed s.ended)
    (free : s.handle.loading = none) {later : List Turn}
    {outcome : Except CatalogError Catalog}
    (returned : (s.calls, outcome) ∈ (s.run (.call :: later)).results) :
    s.begun.length < (s.run (.call :: later)).begun.length := by
  have validLater := valid.run (.call :: later)
  have grown := ended_grows_run s (.call :: later)
  generalize s.run (.call :: later) = t at returned validLater grown ⊢
  have atStart : s.begun.length = s.ended.length := by simp [valid.oneByOne, free]
  have atEnd : t.ended.length ≤ t.begun.length := by simp [validLater.oneByOne]
  -- Were no load to end, the call would have its result from those that ended before it started.
  have longer : s.ended.length ≠ t.ended.length := by
    intro same
    have unchanged : s.ended = t.ended := grown.eq_of_length same
    have unloaded := validLater.unloaded_of_allFailed (unchanged ▸ failed)
    rw [(validLater.failed_of_unloaded unloaded).2, ← unchanged] at returned
    have early : s.calls ∈ s.results.map Prod.fst :=
      List.mem_map_of_mem (valid.ended_sublist.subset returned)
    have started : s.calls ∈ List.range s.calls :=
      valid.accounted.subset (List.mem_append_left _ early)
    simp at started
  have := grown.length_le
  omega

/-- One catalog is loaded, whatever loads fail before. -/
structure LoadsOnce (source : Nat → Load) (s : SharedHandle) : Prop where
  /-- A load begins when all that began before it have ended. -/
  one_at_a_time : s.begun = s.ended.map Prod.fst ++ s.handle.loading.toList
  in_order : s.ended.map Prod.snd =
    (List.range s.ended.length).map fun number => (source number).value
  one_load_per_call : s.begun.Nodup
  one_catalog : ∀ id catalog, (id, .ok catalog) ∈ s.results →
    s.handle.loaded = some catalog ∧
      ∃ number, s.ended.length = number + 1 ∧ FirstSuccess source number catalog
  own_failure : ∀ id fault, (id, .error fault) ∈ s.results → (id, .error fault) ∈ s.ended
  last_load : ∀ entry ∈ s.ended, entry.2.isOk = true → ∀ later,
    (s.run later).handle.isLoaded = true ∧ (s.run later).begun = s.begun
  unloaded : AllFailed s.ended → s.handle.isLoaded = false
  /-- A new call loads at once unless others stand in line. The first of those then loads, and the
  new call does not return before. -/
  loads_again : AllFailed s.ended → s.handle.loading = none →
    (s.handle.waiting = [] → (s.step .call).begun = s.begun ++ [s.calls]) ∧
    (∀ next rest, s.handle.waiting = next :: rest →
      (s.step (.resume next)).begun = s.begun ++ [next]) ∧
    ∀ later outcome, (s.calls, outcome) ∈ (s.run (.call :: later)).results →
      s.begun.length < (s.run (.call :: later)).begun.length
  counted : s.begun.length = s.handle.loads ∧
    s.handle.loads = s.ended.countP (fun entry => !entry.2.isOk) +
      (if s.handle.isLoaded then 1 else 0) + (if s.handle.loading.isSome then 1 else 0)

/-- However calls on one handle start and go on, it loads one catalog. -/
theorem catalog_is_loaded_once (source : Nat → Load) (turns : List Turn) :
    LoadsOnce source ((ofSource source).run turns) := by
  have valid := (valid_ofSource source).run turns
  generalize (ofSource source).run turns = s at valid
  exact {
    one_at_a_time := valid.oneByOne
    in_order := valid.inOrder
    one_load_per_call := valid.begun_nodup
    one_catalog := fun id catalog member =>
      have loaded := valid.loaded_of_ok member
      ⟨loaded, valid.firstSuccess loaded⟩
    own_failure := fun _ _ => valid.error_mem_ended
    last_load := by
      rintro ⟨id, outcome⟩ member ok later
      cases outcome with
      | error fault => simp at ok
      | ok catalog =>
        have loaded := valid.loaded_of_ok (valid.ended_sublist.subset member)
        obtain ⟨stays, begun⟩ := valid.loaded_run loaded later
        exact ⟨by simp [Handle.isLoaded, stays], begun⟩
    unloaded := fun failed => by simp [Handle.isLoaded, valid.unloaded_of_allFailed failed]
    loads_again := fun failed free =>
      ⟨begun_step_call (valid.unloaded_of_allFailed failed) free,
        fun _ _ => begun_step_resume free,
        fun _ _ => valid.begun_of_returned failed free⟩
    counted := ⟨valid.counted.symm, valid.loads_eq⟩ }

theorem catalog_is_loaded_once_at_second_try :
    let source : Nat → Load := fun
      | 0 => return .error (.unavailable "down")
      | 1 => return .ok (.ofModels [])
      | _ => return .error (.unavailable "gone")
    let s := (ofSource source).run
      [.call, .call, .resume 0, .call, .resume 1, .resume 2, .resume 1, .call]
    s.begun = [0, 1] ∧
      s.results = [(0, .error (.unavailable "down")), (1, .ok (.ofModels [])),
        (2, .ok (.ofModels [])), (3, .ok (.ofModels []))] ∧
      LoadsOnce source s :=
  ⟨rfl, rfl, catalog_is_loaded_once _ _⟩

/-- Two calls, a failed load, a third call. Every load so far has failed and none is in flight, yet
the third call does not load: the second stands in line before it, and its load serves both. -/
theorem late_call_need_not_load :
    let source : Nat → Load := fun
      | 0 => return .error (.unavailable "down")
      | _ => return .ok (.ofModels [])
    let s := (ofSource source).run [.call, .call, .resume 0]
    let t := s.run [.call, .resume 1, .resume 1]
    AllFailed s.ended ∧ s.handle.loading = none ∧ s.calls = 2 ∧
      (s.step .call).begun ≠ s.begun ++ [2] ∧
      t.results = [(0, .error (.unavailable "down")), (1, .ok (.ofModels [])),
        (2, .ok (.ofModels []))] ∧
      t.begun = [0, 1] :=
  ⟨List.forall_mem_singleton.mpr rfl, rfl, rfl, by decide, rfl, rfl⟩

end SharedHandle

end EndpointUri
