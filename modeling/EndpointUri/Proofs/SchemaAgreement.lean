import EndpointUri.Catalog.Index
import EndpointUri.Completion.Candidate
import EndpointUri.Proofs.Traversal
import Mathlib.Data.List.Nodup

/-!
The catalog of schema documents keeps its positions in step with its models, whatever documents are
added and wherever they break off. So it is the plain catalog of all models it was given: each
scheme stands where it came first.
-/
namespace EndpointUri
namespace SchemaIndex

/-! ### What documents give -/

/-- The models of schemas up to the first that does not decode. -/
def decoded : List Json → List ComponentModel
  | [] => []
  | schema :: rest =>
    match ComponentModel.ofSchema schema with
    | .ok model => model :: decoded rest
    | .error _ => []

def modelsOf (text : String) : List ComponentModel :=
  match Json.parse text with
  | some document => decoded (schemasOf document)
  | none => []

/-- Adds documents, each with its origin, whatever errors they give. -/
def addAll (index : SchemaIndex) (documents : List (String × String)) : SchemaIndex :=
  documents.foldl (fun index (origin, text) => (index.addDocument origin text).value.1) index

/-! ### Positions and models -/

variable {index : SchemaIndex}

/-- A scheme has a position exactly where its model stands. -/
def Agrees (index : SchemaIndex) : Prop :=
  ∀ (name : String) (i : Nat), index.positions[name]? = some i ↔
    ∃ model, index.models[i]? = some model ∧ model.scheme = name

theorem Agrees.position (agrees : index.Agrees) {i : Nat} {model : ComponentModel}
    (found : index.models[i]? = some model) : index.positions[model.scheme]? = some i :=
  (agrees model.scheme i).mpr ⟨model, found, rfl⟩

/-- Two places with one scheme are the same place. -/
theorem Agrees.place_unique (agrees : index.Agrees) {i j : Nat} {model other : ComponentModel}
    (first : index.models[i]? = some model) (second : index.models[j]? = some other)
    (same : model.scheme = other.scheme) : i = j := by
  have left := agrees.position first
  have right := agrees.position second
  rw [same, right] at left
  exact (Option.some.inj left).symm

theorem Agrees.nodup (agrees : index.Agrees) : (index.models.map (·.scheme)).Nodup := by
  rw [List.nodup_iff_getElem?_ne_getElem?]
  intro i j before bound same
  rw [List.length_map] at bound
  have first : index.models[i]? = some (index.models.get ⟨i, by omega⟩) :=
    List.getElem?_eq_getElem (by omega)
  have second : index.models[j]? = some (index.models.get ⟨j, bound⟩) :=
    List.getElem?_eq_getElem bound
  rw [List.getElem?_map, List.getElem?_map, first, second] at same
  have equal := agrees.place_unique first second (Option.some.inj same)
  omega

theorem Agrees.contains_iff (agrees : index.Agrees) (name : String) :
    index.positions.contains name = true ↔ name ∈ index.models.map (·.scheme) := by
  rw [Std.HashMap.contains_eq_isSome_getElem?, Option.isSome_iff_exists, List.mem_map]
  constructor
  · rintro ⟨i, known⟩
    obtain ⟨model, found, rfl⟩ := (agrees name i).mp known
    exact ⟨model, List.mem_of_getElem? found, rfl⟩
  · rintro ⟨model, member, rfl⟩
    obtain ⟨i, found⟩ := List.mem_iff_getElem?.mp member
    exact ⟨i, agrees.position found⟩

/-- A position never reaches past the models. -/
theorem Agrees.lt_length (agrees : index.Agrees) {name : String} {i : Nat}
    (known : index.positions[name]? = some i) : i < index.models.length := by
  obtain ⟨model, found, -⟩ := (agrees name i).mp known
  exact (List.getElem?_eq_some_iff.mp found).1

/-- Looking a model up by its position finds the first, and only, model of the scheme. -/
theorem Agrees.lookup_eq (agrees : index.Agrees) (name : String) :
    index.lookup name = (Catalog.ofModels index.models).model name := by
  cases known : index.positions[name]? with
  | none =>
    have unlisted : index.models.find? (·.scheme == name) = none := by
      rw [List.find?_eq_none]
      intro model member same
      obtain ⟨i, found⟩ := List.mem_iff_getElem?.mp member
      have position := agrees.position found
      rw [beq_iff_eq.mp same, known] at position
      contradiction
    simp [lookup, Catalog.ofModels, known, unlisted]
  | some i =>
    obtain ⟨model, found, rfl⟩ := (agrees name i).mp known
    have first : index.models.find? (·.scheme == model.scheme) = some model := by
      cases listed : index.models.find? (·.scheme == model.scheme) with
      | none =>
        have missing := List.find?_eq_none.mp listed model (List.mem_of_getElem? found)
        simp at missing
      | some other =>
        obtain ⟨j, place⟩ := List.mem_iff_getElem?.mp (List.mem_of_find?_eq_some listed)
        have same : other.scheme = model.scheme := by simpa using List.find?_some listed
        obtain rfl := agrees.place_unique place found same
        rw [← found, place]
    simp [lookup, Catalog.ofModels, known, found, first]

theorem Agrees.toCatalog_eq (agrees : index.Agrees) :
    index.toCatalog = Catalog.ofModels index.models := by
  have same : index.lookup = (Catalog.ofModels index.models).model := funext agrees.lookup_eq
  rw [toCatalog, same]
  rfl

/-! ### Adding -/

theorem insert_known {model : ComponentModel} (known : index.positions.contains model.scheme = true)
    (origin : String) : (index.insert origin model).value = index := by
  rw [insert, if_pos known]
  rfl

theorem insert_new {model : ComponentModel} (new : ¬ index.positions.contains model.scheme = true)
    (origin : String) :
    (index.insert origin model).value =
      ⟨index.models ++ [model], index.positions.insert model.scheme index.models.length⟩ := by
  rw [insert, if_neg new]
  rfl

theorem getElem?_concat_eq_some_iff {α : Type} {xs : List α} {x y : α} {i : Nat} :
    (xs ++ [x])[i]? = some y ↔ xs[i]? = some y ∨ i = xs.length ∧ x = y := by
  rcases Nat.lt_trichotomy i xs.length with inside | rfl | outside
  · rw [List.getElem?_append_left inside]
    simp [Nat.ne_of_lt inside]
  · simp
  · have past : (xs ++ [x]).length ≤ i := by
      rw [List.length_append, List.length_singleton]
      exact outside
    rw [List.getElem?_eq_none past, List.getElem?_eq_none (Nat.le_of_lt outside)]
    simp [Nat.ne_of_gt outside]

theorem Agrees.insert (agrees : index.Agrees) (origin : String) (model : ComponentModel) :
    (index.insert origin model).value.Agrees := by
  by_cases known : index.positions.contains model.scheme = true
  · rw [insert_known known]
    exact agrees
  · rw [insert_new known]
    intro name i
    simp only [Std.HashMap.getElem?_insert, beq_iff_eq, getElem?_concat_eq_some_iff]
    by_cases same : model.scheme = name
    · rw [if_pos same, Option.some.injEq]
      constructor
      · rintro rfl
        exact ⟨model, Or.inr ⟨rfl, rfl⟩, same⟩
      · rintro ⟨other, found | ⟨rfl, -⟩, scheme⟩
        · have listed : model.scheme ∈ index.models.map (·.scheme) :=
            List.mem_map.mpr ⟨other, List.mem_of_getElem? found, scheme.trans same.symm⟩
          exact absurd ((agrees.contains_iff _).mpr listed) known
        · rfl
    · rw [if_neg same, agrees name i]
      constructor
      · rintro ⟨other, found, scheme⟩
        exact ⟨other, Or.inl found, scheme⟩
      · rintro ⟨other, found | ⟨-, rfl⟩, scheme⟩
        · exact ⟨other, found, scheme⟩
        · exact absurd scheme same

/-- The index holds the first model of each scheme among those it was given. -/
structure Represents (index : SchemaIndex) (given : List ComponentModel) : Prop where
  agrees : index.Agrees
  names : index.models.map (·.scheme) = (given.map (·.scheme)).eraseDups
  first : ∀ name, index.models.find? (·.scheme == name) = given.find? (·.scheme == name)

variable {given : List ComponentModel}

theorem represents_empty : empty.Represents [] where
  agrees := by
    intro name i
    simp [empty]
  names := rfl
  first := fun _ => rfl

theorem Represents.contains_iff (represents : index.Represents given) (name : String) :
    index.positions.contains name = true ↔ name ∈ given.map (·.scheme) := by
  rw [represents.agrees.contains_iff, represents.names, List.mem_eraseDups]

theorem Represents.insert (represents : index.Represents given) (origin : String)
    (model : ComponentModel) :
    (index.insert origin model).value.Represents (given ++ [model]) := by
  have agrees := represents.agrees.insert origin model
  by_cases known : index.positions.contains model.scheme = true
  · have listed := (represents.contains_iff _).mp known
    rw [insert_known known] at agrees ⊢
    refine ⟨agrees, ?_, ?_⟩
    · have nothing : List.removeAll [model.scheme] (given.map (·.scheme)) = [] := by
        simpa [List.removeAll] using listed
      rw [List.map_append, List.map_singleton, List.eraseDups_append, nothing, represents.names]
      simp
    · intro name
      rw [represents.first, List.find?_append]
      by_cases same : model.scheme = name
      · obtain ⟨other, member, scheme⟩ := List.mem_map.mp listed
        have found : (given.find? (·.scheme == name)).isSome = true := by
          rw [List.find?_isSome]
          exact ⟨other, member, by simp [scheme, same]⟩
        rw [Option.or_of_isSome found]
      · simp [same]
  · have unlisted := mt (represents.contains_iff _).mpr known
    rw [insert_new known] at agrees ⊢
    refine ⟨agrees, ?_, ?_⟩
    · have kept : List.removeAll [model.scheme] (given.map (·.scheme)) = [model.scheme] := by
        simpa [List.removeAll] using unlisted
      rw [List.map_append, List.map_append, List.map_singleton, List.eraseDups_append, kept,
        represents.names]
      rfl
    · intro name
      rw [List.find?_append, List.find?_append, represents.first]

theorem Represents.addSchemas (represents : index.Represents given) (origin : String)
    (schemas : List Json) :
    (SchemaIndex.addSchemas origin index schemas).value.1.Represents
      (given ++ decoded schemas) := by
  induction schemas generalizing index given with
  | nil => simpa [SchemaIndex.addSchemas, decoded] using represents
  | cons schema rest ih =>
    cases outcome : ComponentModel.ofSchema schema with
    | error fault => simpa [SchemaIndex.addSchemas, decoded, outcome] using represents
    | ok model =>
      have later := ih (represents.insert origin model)
      simpa [SchemaIndex.addSchemas, decoded, outcome] using later

theorem Represents.addDocument (represents : index.Represents given) (origin text : String) :
    (index.addDocument origin text).value.1.Represents (given ++ modelsOf text) := by
  cases parsed : Json.parse text with
  | none => simpa [SchemaIndex.addDocument, modelsOf, parsed] using represents
  | some document =>
    simpa [SchemaIndex.addDocument, modelsOf, parsed]
      using represents.addSchemas origin (schemasOf document)

theorem Represents.addAll (represents : index.Represents given)
    (documents : List (String × String)) :
    (index.addAll documents).Represents
      (given ++ documents.flatMap fun (_, text) => modelsOf text) := by
  induction documents generalizing index given with
  | nil => simpa [SchemaIndex.addAll] using represents
  | cons document rest ih =>
    obtain ⟨origin, text⟩ := document
    have later := ih (represents.addDocument origin text)
    rw [List.append_assoc] at later
    exact later

theorem Represents.model_eq (represents : index.Represents given) (name : String) :
    index.toCatalog.model name = (Catalog.ofModels given).model name := by
  rw [represents.agrees.toCatalog_eq]
  simp only [Catalog.ofModels, represents.first]

/-! ### Candidates -/

/-- No listed scheme lacks its model. -/
theorem Agrees.generate_eq (agrees : index.Agrees) (scheme : Token) :
    generate index.toCatalog scheme =
      .ok (index.models.map (Candidate.ofModel scheme.span)) := by
  have found : ∀ model ∈ index.models, index.lookup model.scheme = .ok model := by
    intro model member
    obtain ⟨i, place⟩ := List.mem_iff_getElem?.mp member
    simp [lookup, agrees.position place, place]
  rw [generate, toCatalog, List.mapM_map]
  apply mapM_eq_ok
  intro model member
  simp [found model member, Except.map]

/-- The index is the plain catalog of the models it was given, each scheme where it came first. -/
structure Indexes (index : SchemaIndex) (given : List ComponentModel) : Prop where
  positions : ∀ (name : String) (i : Nat), index.positions[name]? = some i ↔
    ∃ model, index.models[i]? = some model ∧ model.scheme = name
  distinct : (index.models.map (·.scheme)).Nodup
  names : index.toCatalog.names = (given.map (·.scheme)).eraseDups
  /-- A name that is not known has the same error. -/
  model : ∀ name, index.toCatalog.model name = (Catalog.ofModels given).model name
  inside : ∀ (name : String), ∀ i ∈ index.positions[name]?, i < index.models.length
  candidates : ∀ scheme : Token, ∃ candidates, generate index.toCatalog scheme = .ok candidates ∧
    generate (Catalog.ofModels index.models) scheme = .ok candidates

end SchemaIndex

/-- Whatever documents are added to an empty catalog, and wherever they break off, it is the plain
catalog of the models that were decoded. -/
theorem schema_catalog_is_plain_catalog (documents : List (String × String)) :
    (SchemaIndex.empty.addAll documents).Indexes
      (documents.flatMap fun (_, text) => SchemaIndex.modelsOf text) := by
  have represents := SchemaIndex.represents_empty.addAll documents
  rw [List.nil_append] at represents
  have agrees := represents.agrees
  refine ⟨agrees, agrees.nodup, represents.names, represents.model_eq, ?_, ?_⟩
  · intro name i known
    exact agrees.lt_length known
  · intro scheme
    have made := agrees.generate_eq scheme
    exact ⟨_, made, agrees.toCatalog_eq ▸ made⟩

/-- An array with a scheme twice and a fault after it, a text that is no JSON, and a scheme that is
already there. -/
theorem schema_catalog_is_plain_catalog_over_faults :
    let documents := [
      ("a.json", "[[[\"kafka\"]], [[\"timer\"]], [[\"kafka\", \"later\"]], 7, [[\"late\"]]]"),
      ("b.json", "[[["), ("c.json", "[[[\"timer\", \"again\"]], [[\"ftp\"]]]")]
    let index := SchemaIndex.empty.addAll documents
    index.toCatalog.names = ["kafka", "timer", "ftp"] ∧
    index.toCatalog.model "timer" = .ok ⟨"timer", none, none⟩ ∧
    index.toCatalog.model "late" = .error (.componentNotFound "late") ∧
    index.positions["ftp"]? = some 2 ∧ 2 < index.models.length := by
  intro documents
  have given : (documents.flatMap fun (_, text) => SchemaIndex.modelsOf text) =
      [⟨"kafka", none, none⟩, ⟨"timer", none, none⟩, ⟨"kafka", some "later", none⟩,
        ⟨"timer", some "again", none⟩, ⟨"ftp", none, none⟩] := by
    decide +kernel
  obtain ⟨positions, -, names, model, inside, -⟩ := schema_catalog_is_plain_catalog documents
  -- Nothing below depends on how the positions are hashed.
  generalize SchemaIndex.empty.addAll documents = index at positions names model inside ⊢
  rw [given] at names model
  have position : index.positions["ftp"]? = some 2 := by
    have third : index.toCatalog.names[2]? = some "ftp" := by
      rw [names]
      rfl
    rw [SchemaIndex.toCatalog, List.getElem?_map, Option.map_eq_some_iff] at third
    exact (positions "ftp" 2).mpr third
  exact ⟨names, model "timer", model "late", position, inside _ _ position⟩

end EndpointUri
