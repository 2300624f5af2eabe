import EndpointUri.Proofs.SharedLoad

/-!
A load that fails is reported to its own caller only. The calls that waited for it load again, one
after the other, until a load succeeds.
-/
namespace EndpointUri

/-- What calls in line get when the first of them makes the load of this number. -/
def lineResults (source : Nat → Load) :
    Nat → List CallId → List (CallId × Except CatalogError Catalog)
  | _, [] => []
  | number, id :: rest =>
    match (source number).value with
    | .ok catalog => (id :: rest).map fun call => (call, .ok catalog)
    | .error fault => (id, .error fault) :: lineResults source (number + 1) rest

def lineLoads (source : Nat → Load) : Nat → List CallId → Nat
  | _, [] => 0
  | number, _ :: rest =>
    match (source number).value with
    | .ok _ => 1
    | .error _ => 1 + lineLoads source (number + 1) rest

section

variable {source : Nat → Load} {number : Nat} {id : CallId} {rest : List CallId}

theorem lineResults_ok {catalog : Catalog} (found : (source number).value = .ok catalog) :
    lineResults source number (id :: rest) =
      (id :: rest).map fun call => (call, .ok catalog) := by
  simp [lineResults, found]

theorem lineResults_error {fault : CatalogError} (failure : (source number).value = .error fault) :
    lineResults source number (id :: rest) =
      (id, .error fault) :: lineResults source (number + 1) rest := by
  simp [lineResults, failure]

theorem lineLoads_ok {catalog : Catalog} (found : (source number).value = .ok catalog) :
    lineLoads source number (id :: rest) = 1 := by
  simp [lineLoads, found]

theorem lineLoads_error {fault : CatalogError} (failure : (source number).value = .error fault) :
    lineLoads source number (id :: rest) = 1 + lineLoads source (number + 1) rest := by
  simp [lineLoads, failure]

theorem lineLoads_pos : 0 < lineLoads source number (id :: rest) := by
  cases outcome : (source number).value with
  | ok => simp [lineLoads_ok outcome]
  | error =>
    rw [lineLoads_error outcome]
    omega

end

namespace SharedHandle

variable {source : Nat → Load} {s t : SharedHandle} {id : CallId}

/-- The calls that have no result yet, in the order in which they load. -/
def line (s : SharedHandle) : List CallId := s.handle.line

/-- The results that are there and those that the line still gets. -/
def finalResults (source : Nat → Load) (s : SharedHandle) :
    List (CallId × Except CatalogError Catalog) :=
  s.results ++ lineResults source s.ended.length s.line

/-- The loads that have ended and those that the line still makes. -/
def finalLoads (source : Nat → Load) (s : SharedHandle) : Nat :=
  s.ended.length + lineLoads source s.ended.length s.line

theorem Effect.final (effect : Effect s (.resume id) t) (valid : s.Valid source) :
    t.finalResults source = s.finalResults source ∧ t.finalLoads source = s.finalLoads source := by
  obtain rfl := valid.source_eq
  cases effect with
  -- The load that ends is the one that the head of the line was to make.
  | succeeded loading found =>
    rw [valid.loads_of_loading loading, Nat.add_sub_cancel] at found
    simp [finalResults, finalLoads, line, Handle.line, loading, lineResults_ok found, lineLoads_ok found,
      lineResults, lineLoads]
  | failed loading failure =>
    rw [valid.loads_of_loading loading, Nat.add_sub_cancel] at failure
    simp [finalResults, finalLoads, line, Handle.line, loading, lineResults_error failure,
      lineLoads_error failure, Nat.add_assoc]
  | tookOver free waiting => simp [finalResults, finalLoads, line, Handle.line, free, waiting]
  | nothing => exact ⟨rfl, rfl⟩

theorem Valid.final_run (valid : s.Valid source) (wakes : List CallId) :
    (s.run (wakes.map .resume)).finalResults source = s.finalResults source ∧
      (s.run (wakes.map .resume)).finalLoads source = s.finalLoads source := by
  induction wakes generalizing s with
  | nil => exact ⟨rfl, rfl⟩
  | cons id wakes ih =>
    have effect := step_effect s (.resume id)
    obtain ⟨results, loads⟩ := effect.final valid
    obtain ⟨resultsLater, loadsLater⟩ := ih (effect.valid valid)
    exact ⟨resultsLater.trans results, loadsLater.trans loads⟩

/-- A call in line loads and returns, in two turns. -/
def backlog (s : SharedHandle) : Nat :=
  2 * s.handle.waiting.length + s.handle.loading.toList.length

theorem exists_backlog_lt (pending : s.line ≠ []) :
    ∃ id, (s.step (.resume id)).backlog < s.backlog := by
  cases loading : s.handle.loading with
  | some id =>
    refine ⟨id, ?_⟩
    have effect := step_effect s (.resume id)
    generalize s.step (.resume id) = t at effect
    cases effect with
    | succeeded => simp [backlog, loading]
    | failed => simp [backlog, loading]
    | tookOver free => simp [loading] at free
    | nothing notLoading => exact absurd loading notLoading
  | none =>
    cases waiting : s.handle.waiting with
    | nil => exact absurd (by simp [line, Handle.line, loading, waiting]) pending
    | cons id rest =>
      refine ⟨id, ?_⟩
      have effect := step_effect s (.resume id)
      generalize s.step (.resume id) = t at effect
      cases effect with
      | succeeded other => simp [loading] at other
      | failed other => simp [loading] at other
      | tookOver _ line =>
        simp only [backlog, loading, line, Option.toList_some, Option.toList_none,
          List.length_cons, List.length_nil]
        omega
      | nothing _ notNext => simp [loading, waiting] at notNext

theorem exists_wakes (s : SharedHandle) :
    ∃ wakes : List CallId, (s.run (wakes.map .resume)).line = [] := by
  induction size : s.backlog using Nat.strongRecOn generalizing s with
  | _ size ih =>
    by_cases done : s.line = []
    · exact ⟨[], done⟩
    · obtain ⟨id, less⟩ := exists_backlog_lt done
      obtain ⟨wakes, later⟩ := ih _ (size ▸ less) _ rfl
      exact ⟨id :: wakes, later⟩

theorem Valid.served (valid : s.Valid source) {wakes : List CallId}
    (done : (s.run (wakes.map .resume)).line = []) :
    (s.run (wakes.map .resume)).results =
        s.results ++ lineResults source s.ended.length s.line ∧
      (s.run (wakes.map .resume)).handle.loads =
        s.ended.length + lineLoads source s.ended.length s.line := by
  obtain ⟨results, loads⟩ := valid.final_run wakes
  have validLater := valid.run (wakes.map .resume)
  generalize s.run (wakes.map .resume) = t at done results loads validLater
  have free : t.handle.loading = none := by
    simpa using (List.append_eq_nil_iff.mp done).1
  have ended : t.handle.loads = t.ended.length := by
    simp [validLater.counted, validLater.oneByOne, free]
  simp only [finalResults, finalLoads, done, lineResults, lineLoads, List.append_nil,
    Nat.add_zero] at results loads
  exact ⟨results, ended.trans loads⟩

/-- A load fails while calls wait for it, and no further call starts. Whatever the order of the
wake-ups, its caller gets the failure and the others load again in turn. So the failure is what all
of them get, from one load, only when nobody else was waiting. -/
theorem waiters_repeat_failed_load (source : Nat → Load) (turns : List Turn) (id : CallId)
    (fault : CatalogError) (loading : ((ofSource source).run turns).handle.loading = some id)
    (failure : (source (((ofSource source).run turns).handle.loads - 1)).value = .error fault) :
    let s := (ofSource source).run turns
    (∃ wakes : List CallId, (s.run (wakes.map .resume)).line = []) ∧
    ∀ wakes : List CallId, let t := s.run (wakes.map .resume)
      t.line = [] →
        t.results = s.results ++
          (id, .error fault) :: lineResults source s.handle.loads s.handle.waiting ∧
        t.handle.loads = s.handle.loads + lineLoads source s.handle.loads s.handle.waiting ∧
        ((∀ call ∈ id :: s.handle.waiting, (call, .error fault) ∈ t.results) ∧
          t.handle.loads = s.handle.loads ↔ s.handle.waiting = []) := by
  have valid := (valid_ofSource source).run turns
  generalize (ofSource source).run turns = s at loading failure valid
  refine ⟨exists_wakes s, ?_⟩
  intro wakes t done
  have made := valid.loads_of_loading loading
  have inLine : s.line = id :: s.handle.waiting := by simp [line, Handle.line, loading]
  have results : t.results = _ := (valid.served done).1
  have loads : t.handle.loads = _ := (valid.served done).2
  rw [made, Nat.add_sub_cancel] at failure
  rw [inLine, lineResults_error failure, ← made] at results
  rw [inLine, lineLoads_error failure, ← Nat.add_assoc, ← made] at loads
  refine ⟨results, loads, ?_⟩
  constructor
  · rintro ⟨_, once⟩
    cases waiting : s.handle.waiting with
    | nil => rfl
    | cons next rest =>
      have again : 0 < lineLoads source s.handle.loads (next :: rest) := lineLoads_pos
      rw [waiting] at loads
      omega
  · intro empty
    rw [empty] at results loads ⊢
    refine ⟨?_, loads⟩
    intro call member
    simp [results, lineResults, List.mem_singleton.mp member]

theorem waiters_repeat_failed_load_twice :
    let source : Nat → Load := fun
      | 0 => return .error (.unavailable "first")
      | 1 => return .error (.unavailable "second")
      | _ => return .ok (.ofModels [])
    let s := (ofSource source).run [.call, .call, .call, .call]
    let t := s.run ([2, 0, 1, 3, 1, 2, 2].map .resume)
    s.handle.loading = some 0 ∧ s.handle.waiting = [1, 2, 3] ∧ t.line = [] ∧
      t.results = [(0, .error (.unavailable "first")), (1, .error (.unavailable "second")),
        (2, .ok (.ofModels [])), (3, .ok (.ofModels []))] ∧
      t.handle.loads = 3 :=
  have shared := waiters_repeat_failed_load _ [.call, .call, .call, .call] 0
    (.unavailable "first") rfl rfl
  have served := shared.2 [2, 0, 1, 3, 1, 2, 2] rfl
  ⟨rfl, rfl, rfl, served.1, served.2.1⟩

end SharedHandle

namespace Handle

variable {h : Handle} {id : CallId} {number : Nat}

theorem drain_succ (h : Handle) (rounds : Nat) :
    (h.drain (rounds + 1)).value =
      ((h.settle.value.1.promote.value.drain rounds).value.1,
        h.settle.value.2 ++ (h.settle.value.1.promote.value.drain rounds).value.2) := by
  simp [drain]

theorem promote_nobody (empty : h.waiting = []) : h.promote.value = h := by
  simp [promote, empty]

theorem drain_idle (free : h.loading = none) (empty : h.waiting = []) (rounds : Nat) :
    (h.drain rounds).value = (h, []) := by
  induction rounds with
  | zero => rfl
  | succ rounds ih =>
    have nothing : h.settle.value = (h, []) := by simp [settle, free]
    simp [drain_succ, nothing, promote_nobody empty, ih]

theorem drain_line {rounds : Nat} (loading : h.loading = some id) (made : h.loads = number + 1)
    (enough : h.waiting.length < rounds) :
    (h.drain rounds).value.2 = lineResults h.source number (id :: h.waiting) ∧
      (h.drain rounds).value.1.loads =
        number + lineLoads h.source number (id :: h.waiting) := by
  induction rounds generalizing h id number with
  | zero => omega
  | succ rounds ih =>
    have current : h.loads - 1 = number := by omega
    cases outcome : (h.source number).value with
    | ok catalog =>
      rw [lineResults_ok outcome, lineLoads_ok outcome, drain_succ,
        settle_ok loading (current ▸ outcome), promote_nobody rfl, drain_idle rfl rfl]
      simp [made]
    | error fault =>
      rw [lineResults_error outcome, lineLoads_error outcome, drain_succ,
        settle_error loading (current ▸ outcome)]
      cases waiting : h.waiting with
      | nil =>
        rw [promote_nobody rfl, drain_idle rfl rfl]
        simp [made, lineResults, lineLoads]
      | cons next rest =>
        rw [promote_next rfl rfl]
        obtain ⟨results, loads⟩ := ih
          (h := { h with waiting := rest, loads := h.loads + 1, loading := some next })
          rfl (congrArg (· + 1) made) (by simpa [waiting] using enough)
        exact ⟨by simp [results], by simp [loads, Nat.add_assoc]⟩

theorem requestAll_busy (unloaded : h.loaded = none) (busy : h.loading ≠ none)
    (ids : List CallId) :
    (h.requestAll ids).value = ({ h with waiting := h.waiting ++ ids }, []) := by
  induction ids generalizing h with
  | nil => simp [requestAll]
  | cons id ids ih =>
    have queued := request_busy unloaded (fun idle => busy idle.1) id
    simp [requestAll, queued, ih (h := { h with waiting := h.waiting ++ [id] }) unloaded busy]

theorem requestAll_ofSource (source : Nat → Load) (id : CallId) (ids : List CallId) :
    ((ofSource source).requestAll (id :: ids)).value = (⟨source, none, 1, some id, ids⟩, []) := by
  have began : ((ofSource source).request id).value = (⟨source, none, 1, some id, []⟩, none) :=
    request_free rfl rfl rfl id
  have joined : (requestAll ⟨source, none, 1, some id, []⟩ ids).value =
      (⟨source, none, 1, some id, ids⟩, []) :=
    requestAll_busy rfl (by simp) ids
  simp [requestAll, began, joined]

/-- Calls made at once on a new handle stand in one line. -/
theorem getAll_ofSource (source : Nat → Load) (count : Nat) :
    ((ofSource source).getAll count).value.2 =
        (lineResults source 0 (List.range count)).map Prod.snd ∧
      ((ofSource source).getAll count).value.1.loads = lineLoads source 0 (List.range count) := by
  cases count with
  | zero => simp [getAll, requestAll, ofSource, drain_idle, lineResults, lineLoads]
  | succ count =>
    rw [getAll, List.range_succ_eq_map]
    generalize (List.range count).map Nat.succ = ids
    obtain ⟨results, loads⟩ := drain_line (h := ⟨source, none, 1, some 0, ids⟩) rfl rfl
      (Nat.lt_succ_self ids.length)
    simpa [requestAll_ofSource, results] using loads

/-- Two calls that wait for one load: each makes a load and gets its own failure. -/
theorem failed_load_is_not_shared :
    let source : Nat → Load := fun
      | 0 => return .error (.unavailable "first")
      | _ => return .error (.unavailable "second")
    ((ofSource source).getAll 2).value.2 =
        [.error (.unavailable "first"), .error (.unavailable "second")] ∧
      ((ofSource source).getAll 2).value.1.loads = 2 :=
  getAll_ofSource _ 2

end Handle
end EndpointUri
