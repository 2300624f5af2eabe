import Mathlib.Data.List.Forall2

/-!
Lists of computations that may fail. The results are collected in order, up to the first failure.
-/
namespace EndpointUri

def errorOf? {ε α : Type} : Except ε α → Option ε
  | .ok _ => none
  | .error fault => some fault

/-- Results are collected up to the first error, and all of them if there is none. -/
theorem mapM_map_eq {ε α β γ : Type} (f : α → Except ε β) (g : β → γ) (xs : List α) :
    (xs.mapM fun x => (f x).map g) = (xs.findSome? fun x => errorOf? (f x)).elim
      (.ok ((xs.filterMap fun x => (f x).toOption).map g)) .error := by
  induction xs with
  | nil => rfl
  | cons x rest ih =>
    rw [List.mapM_cons, List.findSome?_cons, List.filterMap_cons, ih]
    cases here : f x with
    | error fault => rfl
    | ok value => cases rest.findSome? fun x => errorOf? (f x) <;> rfl

theorem mapM_eq_ok {ε α β : Type} {f : α → Except ε β} {g : α → β} {xs : List α}
    (each : ∀ x ∈ xs, f x = .ok (g x)) : xs.mapM f = .ok (xs.map g) := by
  induction xs with
  | nil => rfl
  | cons x xs ih =>
    obtain ⟨here, later⟩ := List.forall_mem_cons.mp each
    rw [List.mapM_cons, here, ih later]
    rfl

theorem mem_of_mapM_ok {ε α β : Type} {f : α → Except ε β} {xs : List α} {ys : List β}
    (mapped : xs.mapM f = .ok ys) : ∀ y ∈ ys, ∃ x ∈ xs, f x = .ok y := by
  induction xs generalizing ys with
  | nil =>
    obtain rfl : [] = ys := Except.ok.inj mapped
    simp
  | cons x xs ih =>
    rw [List.mapM_cons] at mapped
    cases here : f x with
    | error fault => simp [here, bind, Except.bind] at mapped
    | ok first =>
      cases later : xs.mapM f with
      | error fault => simp [here, later, bind, Except.bind] at mapped
      | ok rest =>
        obtain rfl : first :: rest = ys := by
          simpa [here, later, bind, Except.bind, pure, Except.pure] using mapped
        intro y member
        rcases List.mem_cons.mp member with rfl | member
        · exact ⟨x, List.mem_cons_self, here⟩
        · obtain ⟨x', inside, made⟩ := ih later y member
          exact ⟨x', List.mem_cons_of_mem _ inside, made⟩

theorem exists_forall₂_mapM {α β : Type} {f : α → Option β} {related : α → β → Prop} {xs : List α}
    (each : ∀ x ∈ xs, ∃ y, f x = some y ∧ related x y) :
    ∃ ys, xs.mapM f = some ys ∧ List.Forall₂ related xs ys := by
  induction xs with
  | nil => exact ⟨[], rfl, .nil⟩
  | cons x rest ih =>
    obtain ⟨⟨y, found, here⟩, later⟩ := List.forall_mem_cons.mp each
    obtain ⟨ys, others, pairwise⟩ := ih later
    refine ⟨y :: ys, ?_, .cons here pairwise⟩
    rw [List.mapM_cons, found, others]
    rfl

theorem isSome_mapM {α β : Type} {f : α → Option β} {xs : List α}
    (each : ∀ x ∈ xs, (f x).isSome) : (xs.mapM f).isSome := by
  have found : ∀ x ∈ xs, ∃ y, f x = some y ∧ f x = some y := by
    intro x member
    obtain ⟨y, here⟩ := Option.isSome_iff_exists.mp (each x member)
    exact ⟨y, here, here⟩
  obtain ⟨ys, collected, -⟩ := exists_forall₂_mapM found
  rw [collected, Option.isSome_some]

end EndpointUri
