import EndpointUri.Proofs.Precedence

/-!
Merging as an operation on layers of which any may be absent. It is associative and an absent layer
is its identity, so layers may be merged in groups. What it makes of a list is told field by field,
by the last layer that sets the field.
-/
namespace EndpointUri
namespace Layer

/-! ### Two layers -/

theorem merge_none_left (upper : Option Layer) : merge none upper = upper := by
  cases upper <;> rfl

theorem merge_none_right (lower : Option Layer) : merge lower none = lower := by
  cases lower <;> rfl

theorem overlaid_assoc (lower middle upper : Layer) :
    (lower.overlaid middle).overlaid upper = lower.overlaid (middle.overlaid upper) := by
  simp only [overlaid, Option.or_assoc]

theorem merge_assoc (lower middle upper : Option Layer) :
    merge (merge lower middle) upper = merge lower (merge middle upper) := by
  cases lower with
  | none => rw [merge_none_left, merge_none_left]
  | some lower =>
    cases middle with
    | none => rw [merge_none_right, merge_none_left]
    | some middle =>
      cases upper with
      | none => rw [merge_none_right, merge_none_right]
      | some upper => exact congrArg some (overlaid_assoc lower middle upper)

instance : Std.Associative merge := ⟨merge_assoc⟩

/-! ### Lists of layers -/

/-- The first layer may as well be put on an absent one. -/
theorem mergeAll_eq_foldl (layers : List (Option Layer)) :
    mergeAll layers = layers.foldl merge none := by
  cases layers with
  | nil => rfl
  | cons first rest => rw [mergeAll, List.foldl_cons, merge_none_left]

theorem foldl_merge_eq_merge_mergeAll (first : Option Layer) (rest : List (Option Layer)) :
    rest.foldl merge first = merge first (mergeAll rest) := by
  calc rest.foldl merge first
      _ = rest.foldl merge (merge first none) := by rw [merge_none_right]
      _ = merge first (rest.foldl merge none) := List.foldl_assoc
      _ = merge first (mergeAll rest) := by rw [mergeAll_eq_foldl]

theorem mergeAll_append (lower upper : List (Option Layer)) :
    mergeAll (lower ++ upper) = merge (mergeAll lower) (mergeAll upper) := by
  rw [mergeAll_eq_foldl, List.foldl_append, ← mergeAll_eq_foldl, foldl_merge_eq_merge_mergeAll]

theorem mergeAll_eq_none_iff (layers : List (Option Layer)) :
    mergeAll layers = none ↔ ∀ layer ∈ layers, layer = none := by
  rw [mergeAll_eq_foldl, foldl_merge_eq_none_iff]
  exact and_iff_right rfl

/-! ### Which layer decides a field -/

variable {α : Type} {field : Layer → Option α} {layers : List (Option Layer)}

/-- The value that a list of layers gives a field: that of a layer which sets it and above which none
does, or none where no layer sets it. -/
def Decides (field : Layer → Option α) (layers : List (Option Layer)) : Option α → Prop
  | some value => ∃ below layer above, layers = below ++ some layer :: above ∧
      field layer = some value ∧ ∀ later, some later ∈ above → field later = none
  | none => ∀ layer, some layer ∈ layers → field layer = none

/-- Absent layers set nothing, so only those that are there have to be asked. -/
theorem forall_bind_eq_none_iff (field : Layer → Option α) (layers : List (Option Layer)) :
    (∀ layer ∈ layers, layer.bind field = none) ↔
      ∀ layer, some layer ∈ layers → field layer = none := by
  constructor
  · intro unset layer member
    exact unset (some layer) member
  · rintro unset (_ | layer) member
    · rfl
    · exact unset layer member

theorem decides_lastSet (field : Layer → Option α) (layers : List (Option Layer)) :
    Decides field layers (lastSet field layers) := by
  cases last : lastSet field layers with
  | none =>
    rw [lastSet, List.findSome?_eq_none_iff] at last
    apply (forall_bind_eq_none_iff field layers).mp
    intro layer member
    exact last layer (List.mem_reverse.mpr member)
  | some value =>
    rw [lastSet, List.findSome?_eq_some_iff] at last
    obtain ⟨above, layer, below, split, sets, unset⟩ := last
    obtain ⟨layer, rfl, sets⟩ := Option.bind_eq_some_iff.mp sets
    refine ⟨below.reverse, layer, above.reverse, ?_, sets, ?_⟩
    · rw [← List.reverse_reverse layers, split]
      simp
    · intro later member
      exact (forall_bind_eq_none_iff field above).mp unset later (List.mem_reverse.mp member)

theorem decides_of_mergeAll (overrides : Overrides field) {merged : Layer}
    (isMerged : mergeAll layers = some merged) : Decides field layers (field merged) := by
  have last := mergeAll_bind overrides layers
  rw [isMerged, Option.bind_some] at last
  rw [last]
  exact decides_lastSet field layers

/-! ### The algebra of layers -/

/-- Merging is associative and an absent layer changes nothing on either side, so a list may be merged
in two parts. Nothing comes of absent layers only; otherwise there is a merged layer, and each of its
fields is decided by the last layer that sets it. -/
theorem merging_is_monoid_of_layers :
    (∀ lower middle upper,
      merge (merge lower middle) upper = merge lower (merge middle upper)) ∧
    (∀ layer, merge none layer = layer ∧ merge layer none = layer) ∧
    (∀ lower upper, mergeAll (lower ++ upper) = merge (mergeAll lower) (mergeAll upper)) ∧
    ∀ layers,
      (mergeAll layers = none ↔ ∀ layer ∈ layers, layer = none) ∧
      ((∃ layer, some layer ∈ layers) → ∃ merged, mergeAll layers = some merged ∧
        Decides (·.catalogPath) layers merged.catalogPath ∧
        Decides (·.includeDeprecated) layers merged.includeDeprecated ∧
        Decides (·.logLevel) layers merged.logLevel) := by
  refine ⟨merge_assoc, fun layer => ⟨merge_none_left layer, merge_none_right layer⟩,
    mergeAll_append, fun layers => ⟨mergeAll_eq_none_iff layers, ?_⟩⟩
  rintro ⟨layer, present⟩
  obtain ⟨merged, isMerged⟩ : ∃ merged, mergeAll layers = some merged := by
    apply Option.ne_none_iff_exists'.mp
    intro nothing
    have absent := (mergeAll_eq_none_iff layers).mp nothing (some layer) present
    contradiction
  exact ⟨merged, isMerged, decides_of_mergeAll overrides_catalogPath isMerged,
    decides_of_mergeAll overrides_includeDeprecated isMerged,
    decides_of_mergeAll overrides_logLevel isMerged⟩

/-- Two layers with an absent one between and above them: each sets a field that the other leaves, the
upper one decides the field that both set, and the parts before and after the gap merge to the same. -/
theorem merging_is_monoid_of_layers_around_gap :
    let lower : Option Layer := some ⟨some "/a", some false, none⟩
    let upper : Option Layer := some ⟨some "/b", none, some "debug"⟩
    mergeAll [lower, none, upper, none] = some ⟨some "/b", some false, some "debug"⟩ ∧
      mergeAll [lower, none, upper, none] = merge (mergeAll [lower, none]) (mergeAll [upper, none]) ∧
      Decides (·.catalogPath) [lower, none, upper, none] (some "/b") ∧
      Decides (·.includeDeprecated) [lower, none, upper, none] (some false) ∧
      Decides (·.logLevel) [lower, none, upper, none] (some "debug") := by
  intro lower upper
  obtain ⟨-, -, parts, lists⟩ := merging_is_monoid_of_layers
  obtain ⟨merged, isMerged, catalogPath, includeDeprecated, logLevel⟩ :=
    (lists [lower, none, upper, none]).2 ⟨_, List.mem_cons_self⟩
  have value : mergeAll [lower, none, upper, none] =
      some ⟨some "/b", some false, some "debug"⟩ := rfl
  obtain rfl := Option.some.inj (isMerged.symm.trans value)
  exact ⟨value, parts [lower, none] [upper, none], catalogPath, includeDeprecated, logLevel⟩

end Layer
end EndpointUri
