import EndpointUri.Proofs.Boundary
import EndpointUri.Proofs.SchemaAgreement
import Mathlib.Data.List.Forall2
import Mathlib.Data.List.Lex
import Mathlib.Tactic.SplitIfs

/-!
A directory of schema files is the catalog of one array: that of all their schemas, file after file in
the byte order of the names. How the directory lists them does not matter, nor what else it holds. The
first file at fault gives its error, and then there is no catalog.
-/
namespace EndpointUri

/-! ### The order of names -/

namespace Text

/-- The encoded form of `a` comes first, byte by byte. -/
def BytesBefore (a b : String) : Prop :=
  List.Lex (· < ·) a.toUTF8.data.toList b.toUTF8.data.toList

theorem BytesBefore.asymm {a b : String} (before : BytesBefore a b) : ¬ BytesBefore b a := by
  intro after
  exact List.lt_asymm (List.lex_lt.mp before) (List.lex_lt.mp after)

/-- Numbers as bytes: a smaller one comes first, and behind the same one the rest decides. -/
theorem lex_byte {m n : Nat} {xs ys : List UInt8} (le : m ≤ n) (byte : n < UInt8.size)
    (rest : m = n → List.Lex (· < ·) xs ys) :
    List.Lex (· < ·) (UInt8.ofNat m :: xs) (UInt8.ofNat n :: ys) := by
  rcases Nat.lt_or_eq_of_le le with less | rfl
  · exact .rel ((UInt8.ofNat_lt_iff_lt (Nat.lt_trans less byte) byte).mpr less)
  · exact .cons (rest rfl)

/-- A smaller character has a smaller first byte, or as many bytes with smaller digits in them. -/
theorem lex_utf8EncodeChar {c d : Char} (less : c < d) (xs ys : List UInt8) :
    List.Lex (· < ·) (String.utf8EncodeChar c ++ xs) (String.utf8EncodeChar d ++ ys) := by
  have values : c.val.toNat < d.val.toNat := less
  have bound : d.val.toNat < 0x110000 := by
    rcases d.valid with low | high
    · exact Nat.lt_trans low (by decide)
    · exact high.2
  have size : UInt8.size = 256 := rfl
  unfold String.utf8EncodeChar
  dsimp only
  split_ifs <;> simp only [List.cons_append, List.nil_append]
  -- One goal for each pair of lengths; byte by byte, up to the first that differs.
  all_goals
    repeat first
      | (exfalso; omega)
      | refine lex_byte (by omega) (by omega) fun _ => ?_

theorem lex_flatMap_utf8EncodeChar {xs ys : List Char} (less : List.Lex (· < ·) xs ys) :
    List.Lex (· < ·) (xs.flatMap String.utf8EncodeChar) (ys.flatMap String.utf8EncodeChar) := by
  induction less with
  | @nil c cs =>
    obtain ⟨byte, bytes, encoded⟩ := List.exists_cons_of_ne_nil (String.utf8EncodeChar_ne_nil (c := c))
    rw [List.flatMap_cons, encoded]
    exact .nil
  | rel smaller => exact lex_utf8EncodeChar smaller _ _
  | cons _ ih => exact List.Lex.append_left _ ih _

/-- Texts in the order of their characters are in the order of their bytes. -/
theorem bytesBefore_of_lt {a b : String} (less : a < b) : BytesBefore a b := by
  rw [BytesBefore, bytes_eq_flatMap, bytes_eq_flatMap]
  exact lex_flatMap_utf8EncodeChar (List.lex_lt.mpr less)

end Text

namespace SchemaIndex

/-- The schema files of a directory, each once, in the byte order of their names. -/
structure Listing (entries files : List (String × FileNode)) : Prop where
  all : files.Perm (entries.filter fun entry => isSchemaFile entry.1)
  ordered : files.Pairwise fun a b => Text.BytesBefore a.1 b.1

section Order

variable {entries other files files' : List (String × FileNode)}

theorem Listing.unique (listing : Listing entries files) (listing' : Listing entries files') :
    files = files' := by
  refine List.Perm.eq_of_pairwise ?_ listing.ordered listing'.ordered
    (listing.all.trans listing'.all.symm)
  intro a b _ _ before after
  exact absurd after before.asymm

theorem schemaFiles_perm (entries : List (String × FileNode)) :
    (schemaFiles entries).Perm (entries.filter fun entry => isSchemaFile entry.1) :=
  List.mergeSort_perm _ _

theorem schemaFiles_sorted (entries : List (String × FileNode)) :
    (schemaFiles entries).Pairwise fun a b => a.1 ≤ b.1 := by
  have sorted : (schemaFiles entries).Pairwise fun a b => (!decide (b.1 < a.1)) = true := by
    apply List.pairwise_mergeSort
    · intro a b c
      simp only [Bool.not_eq_true', decide_eq_false_iff_not, String.not_lt]
      exact String.le_trans
    · intro a b
      simp only [Bool.or_eq_true, Bool.not_eq_true', decide_eq_false_iff_not, String.not_lt]
      exact String.le_total a.1 b.1
  simpa only [Bool.not_eq_true', decide_eq_false_iff_not, String.not_lt] using sorted

theorem schemaFiles_nodup (once : (entries.map Prod.fst).Nodup) :
    ((schemaFiles entries).map Prod.fst).Nodup := by
  rw [((schemaFiles_perm entries).map Prod.fst).nodup_iff]
  exact once.sublist (List.filter_sublist.map _)

theorem listing_of_sorted
    (all : files.Perm (entries.filter fun entry => isSchemaFile entry.1))
    (sorted : (files.map Prod.fst).Pairwise (· < ·)) : Listing entries files :=
  ⟨all, (List.pairwise_map.mp sorted).imp Text.bytesBefore_of_lt⟩

/-- A directory that names each entry once has its schema files sorted. -/
theorem listing_schemaFiles (once : (entries.map Prod.fst).Nodup) :
    Listing entries (schemaFiles entries) := by
  apply listing_of_sorted (schemaFiles_perm entries)
  have sorted := List.pairwise_map.mpr (schemaFiles_sorted entries)
  refine (sorted.and (schemaFiles_nodup once)).imp ?_
  rintro a b ⟨le, ne⟩
  by_contra notBefore
  exact ne (String.le_antisymm le (String.not_lt.mp notBefore))

/-- The order of the entries, and entries that are no schema files, do not matter. -/
theorem schemaFiles_congr (once : (entries.map Prod.fst).Nodup) (once' : (other.map Prod.fst).Nodup)
    (same : ∀ file : String × FileNode, isSchemaFile file.1 → (file ∈ other ↔ file ∈ entries)) :
    schemaFiles other = schemaFiles entries := by
  have perm : (other.filter fun entry => isSchemaFile entry.1).Perm
      (entries.filter fun entry => isSchemaFile entry.1) := by
    rw [List.perm_ext_iff_of_nodup (once'.of_map.filter _) (once.of_map.filter _)]
    intro file
    rw [List.mem_filter, List.mem_filter]
    exact and_congr_left (same file)
  -- Names that differ leave no choice of order, so both are the one listing of `entries`.
  have listing := listing_schemaFiles once'
  exact Listing.unique ⟨listing.all.trans perm, listing.ordered⟩ (listing_schemaFiles once)

end Order

/-! ### Documents one after the other -/

/-- The first model of a scheme stays. -/
def keep (index : SchemaIndex) (model : ComponentModel) : SchemaIndex :=
  if index.positions.contains model.scheme then index
  else ⟨index.models ++ [model], index.positions.insert model.scheme index.models.length⟩

def keepAll (index : SchemaIndex) (models : List ComponentModel) : SchemaIndex :=
  models.foldl keep index

/-- Where a model comes from is told in a warning only. -/
theorem insert_value (index : SchemaIndex) (origin : String) (model : ComponentModel) :
    (index.insert origin model).value = index.keep model := by
  by_cases known : index.positions.contains model.scheme = true
  · rw [insert_known known, keep, if_pos known]
  · rw [insert_new known, keep, if_neg known]

def schemaFault? (origin : String) (schema : Json) : Option CatalogError :=
  match ComponentModel.ofSchema schema with
  | .ok _ => none
  | .error fault => some (.schema origin fault.message)

/-- The error of a text: it is no JSON, or the first of its schemas that does not decode. -/
def documentFault? (origin text : String) : Option CatalogError :=
  match Json.parse text with
  | some document => (schemasOf document).findSome? (schemaFault? origin)
  | none => some (.schema origin syntaxFault)

/-- The error of a file: it cannot be read, or that of its text. -/
def fileFault? (directory : String) (file : String × FileNode) : Option CatalogError :=
  match file.2.read with
  | .ok text => documentFault? (Path.join directory file.1) text
  | .error cause => some (.file cause)

def fileModels (file : String × FileNode) : List ComponentModel :=
  match file.2.read with
  | .ok text => modelsOf text
  | .error _ => []

theorem addSchemas_value (origin : String) (index : SchemaIndex) (schemas : List Json) :
    (addSchemas origin index schemas).value = (index.keepAll (decoded schemas),
      (schemas.findSome? (schemaFault? origin)).elim (.ok ()) .error) := by
  induction schemas generalizing index with
  | nil => rfl
  | cons schema rest ih =>
    cases outcome : ComponentModel.ofSchema schema with
    | error fault => simp [addSchemas, decoded, schemaFault?, outcome, keepAll]
    | ok model =>
      simp [addSchemas, decoded, schemaFault?, outcome, keepAll, insert_value, ih]

theorem addDocument_value (index : SchemaIndex) (origin text : String) :
    (index.addDocument origin text).value = (index.keepAll (modelsOf text),
      (documentFault? origin text).elim (.ok ()) .error) := by
  cases parsed : Json.parse text with
  | none => simp [addDocument, modelsOf, documentFault?, parsed, keepAll]
  | some document => simp [addDocument, modelsOf, documentFault?, parsed, addSchemas_value]

/-- Files are added up to the first at fault, whose error is the result. -/
theorem addFiles_value (directory : String) (index : SchemaIndex)
    (files : List (String × FileNode)) :
    (addFiles directory index files).value = (files.findSome? (fileFault? directory)).elim
      (.ok (index.keepAll (files.flatMap fileModels))) .error := by
  -- The index is that of the files before; what it holds does not influence the errors.
  induction files generalizing index with
  | nil => rfl
  | cons file rest ih =>
    obtain ⟨name, node⟩ := file
    cases contents : node.read with
    | error cause => simp [addFiles, fileFault?, contents]
    | ok text =>
      cases fault : documentFault? (Path.join directory name) text with
      | some fault' => simp [addFiles, fileFault?, contents, addDocument_value, fault]
      | none =>
        simp [addFiles, fileFault?, fileModels, contents, addDocument_value, fault, ih, keepAll,
          List.foldl_append]

/-! ### One array -/

/-- The file can be read, and the document is what its text says. -/
def Holds (file : String × FileNode) (document : Json) : Prop :=
  ∃ text, file.2.read = .ok text ∧ Json.parse text = some document

def Decodes (schemas : List Json) : Prop :=
  ∀ schema ∈ schemas, ∃ model, ComponentModel.ofSchema schema = .ok model

theorem findSome?_schemaFault? {origin : String} {schemas : List Json} :
    schemas.findSome? (schemaFault? origin) = none ↔ Decodes schemas := by
  rw [List.findSome?_eq_none_iff]
  refine forall₂_congr fun schema _ => ?_
  cases outcome : ComponentModel.ofSchema schema <;> simp [schemaFault?, outcome]

theorem decodes_append {first second : List Json} :
    Decodes (first ++ second) ↔ Decodes first ∧ Decodes second :=
  List.forall_mem_append

/-- Schemas that decode do not keep those after them from being reached. -/
theorem decoded_append {first : List Json} (decodes : Decodes first) (second : List Json) :
    decoded (first ++ second) = decoded first ++ decoded second := by
  induction first with
  | nil => rfl
  | cons schema rest ih =>
    obtain ⟨⟨model, outcome⟩, later⟩ := List.forall_mem_cons.mp decodes
    simp [decoded, outcome, ih later]

section Documents

variable {file : String × FileNode} {document : Json} {files : List (String × FileNode)}
  {documents : List Json}

theorem Holds.fault_iff (holds : Holds file document) (directory : String) :
    fileFault? directory file = none ↔ Decodes (schemasOf document) := by
  obtain ⟨text, contents, parsed⟩ := holds
  simp only [fileFault?, documentFault?, contents, parsed, findSome?_schemaFault?]

theorem exists_document {directory : String} (sound : fileFault? directory file = none) :
    ∃ document, Holds file document := by
  cases contents : file.2.read with
  | error cause => simp [fileFault?, contents] at sound
  | ok text =>
    cases parsed : Json.parse text with
    | none => simp [fileFault?, documentFault?, contents, parsed] at sound
    | some document => exact ⟨document, text, contents, parsed⟩

theorem Holds.models_eq (holds : Holds file document) :
    fileModels file = decoded (schemasOf document) := by
  obtain ⟨text, contents, parsed⟩ := holds
  simp [fileModels, modelsOf, contents, parsed]

theorem exists_documents {directory : String} (sound : files.findSome? (fileFault? directory) = none) :
    ∃ documents, List.Forall₂ Holds files documents := by
  rw [List.findSome?_eq_none_iff] at sound
  induction files with
  | nil => exact ⟨[], .nil⟩
  | cons file rest ih =>
    obtain ⟨here, later⟩ := List.forall_mem_cons.mp sound
    obtain ⟨document, holds⟩ := exists_document here
    obtain ⟨documents, hold⟩ := ih later
    exact ⟨document :: documents, .cons holds hold⟩

theorem findSome?_fileFault? (hold : List.Forall₂ Holds files documents) {directory : String} :
    files.findSome? (fileFault? directory) = none ↔ Decodes (documents.flatMap schemasOf) := by
  induction hold with
  | nil => simp [Decodes]
  | cons holds _ ih =>
    rw [List.flatMap_cons, decodes_append, ← ih, ← holds.fault_iff directory,
      List.findSome?_eq_none_iff, List.findSome?_eq_none_iff, List.forall_mem_cons]

/-- The models of files all of whose schemas decode are those of one array. -/
theorem flatMap_fileModels (hold : List.Forall₂ Holds files documents)
    (decodes : Decodes (documents.flatMap schemasOf)) :
    files.flatMap fileModels = decoded (documents.flatMap schemasOf) := by
  induction hold with
  | nil => rfl
  | cons holds _ ih =>
    rw [List.flatMap_cons] at decodes
    obtain ⟨here, later⟩ := decodes_append.mp decodes
    rw [List.flatMap_cons, List.flatMap_cons, decoded_append here, holds.models_eq, ih later]

end Documents

/-- What comes of a directory whose schema files are these, in this order. -/
structure LoadsInOrder (path : String) (files : List (String × FileNode))
    (result : Except CatalogError SchemaIndex) : Prop where
  /-- The first file at fault gives its error. -/
  fault : ∀ fault, result = .error fault ↔ files.findSome? (fileFault? path) = some fault
  /-- Only documents are loaded. -/
  holds : ∀ index, result = .ok index → ∃ documents, List.Forall₂ Holds files documents
  decodes : ∀ documents, List.Forall₂ Holds files documents →
    ((∃ index, result = .ok index) ↔ Decodes (documents.flatMap schemasOf))
  /-- The catalog is that of one array, wherever it comes from. -/
  array : ∀ documents, List.Forall₂ Holds files documents → ∀ index, result = .ok index →
    ∀ origin, (addSchemas origin empty (schemasOf (.array (documents.flatMap schemasOf)))).value =
      (index, .ok ())
  /-- A file with that array is loaded as the same catalog. -/
  file : ∀ documents, List.Forall₂ Holds files documents → ∀ index, result = .ok index →
    ∀ origin text, Json.parse text = some (.array (documents.flatMap schemasOf)) →
      (load origin (.ok (.file text.toUTF8))).value = .ok index

theorem load_value (path : String) (found : Except FileError FileNode) :
    (load path found).value = (readFrom path found).value := by
  cases result : (readFrom path found).value <;> simp [load, result]

theorem ofDocument_value (origin text : String) :
    (ofDocument origin text).value = (documentFault? origin text).elim
      (.ok (empty.keepAll (modelsOf text))) .error := by
  simp only [ofDocument, Logged.value_bind, addDocument_value]
  cases documentFault? origin text <;> rfl

theorem load_file_value (origin text : String) :
    (load origin (.ok (.file text.toUTF8))).value = (documentFault? origin text).elim
      (.ok (empty.keepAll (modelsOf text))) .error := by
  rw [load_value]
  simp only [readFrom, FileNode.read_toUTF8, ofDocument_value]

section Files

variable {path : String} {files : List (String × FileNode)} {documents : List Json}

theorem addFiles_error_iff {fault : CatalogError} :
    (addFiles path empty files).value = .error fault ↔
      files.findSome? (fileFault? path) = some fault := by
  rw [addFiles_value]
  cases files.findSome? (fileFault? path) <;> simp

theorem addFiles_ok_iff :
    (∃ index, (addFiles path empty files).value = .ok index) ↔
      files.findSome? (fileFault? path) = none := by
  rw [addFiles_value]
  cases files.findSome? (fileFault? path) <;> simp

/-- What is loaded from documents is made of the models of all their schemas. -/
theorem addFiles_documents (hold : List.Forall₂ Holds files documents) {index : SchemaIndex}
    (loaded : (addFiles path empty files).value = .ok index) :
    Decodes (documents.flatMap schemasOf) ∧
      index = empty.keepAll (decoded (documents.flatMap schemasOf)) := by
  have sound := addFiles_ok_iff.mp ⟨index, loaded⟩
  have decodes := (findSome?_fileFault? hold).mp sound
  rw [addFiles_value, sound, flatMap_fileModels hold decodes] at loaded
  exact ⟨decodes, (Except.ok.inj loaded).symm⟩

variable (path files) in
theorem loadsInOrder : LoadsInOrder path files (addFiles path empty files).value := by
  refine ⟨fun fault => addFiles_error_iff, ?_, ?_, ?_, ?_⟩
  · intro index loaded
    exact exists_documents (addFiles_ok_iff.mp ⟨index, loaded⟩)
  · intro documents hold
    rw [addFiles_ok_iff, findSome?_fileFault? hold]
  · intro documents hold index loaded origin
    obtain ⟨decodes, rfl⟩ := addFiles_documents hold loaded
    rw [schemasOf, addSchemas_value, findSome?_schemaFault?.mpr decodes]
    rfl
  · intro documents hold index loaded origin text parsed
    obtain ⟨decodes, rfl⟩ := addFiles_documents hold loaded
    rw [load_file_value, documentFault?, modelsOf, parsed]
    simp only [schemasOf, findSome?_schemaFault?.mpr decodes, Option.elim]

end Files

end SchemaIndex

/-- A directory of schemas is the catalog of one array. A directory names each entry once; of its entries
only the schema files count, in whatever order it lists them. In the byte order of their names the first
file at fault gives the error; if there is none, the catalog is that of all their schemas in one
array. -/
theorem directory_is_one_array (path : String) {entries : List (String × FileNode)}
    (once : (entries.map Prod.fst).Nodup) :
    (∀ other : List (String × FileNode), (other.map Prod.fst).Nodup →
      (∀ file : String × FileNode, SchemaIndex.isSchemaFile file.1 →
        (file ∈ other ↔ file ∈ entries)) →
      SchemaIndex.load path (.ok (.directory other)) =
        SchemaIndex.load path (.ok (.directory entries))) ∧
    (∃ files, SchemaIndex.Listing entries files) ∧
    ∀ files, SchemaIndex.Listing entries files →
      SchemaIndex.LoadsInOrder path files
        (SchemaIndex.load path (.ok (.directory entries))).value := by
  have listing := SchemaIndex.listing_schemaFiles once
  refine ⟨?_, ⟨_, listing⟩, ?_⟩
  · intro other once' same
    rw [SchemaIndex.load, SchemaIndex.load, SchemaIndex.readFrom, SchemaIndex.readFrom,
      SchemaIndex.schemaFiles_congr once once' same]
  · intro files listed
    rw [listed.unique listing, SchemaIndex.load_value]
    exact SchemaIndex.loadsInOrder path _

/-- A single schema and an array that has its scheme again, listed in either order beside an entry that
is no schema file. A bad schema is reported before a later file that cannot be read. -/
theorem directory_is_one_array_either_order :
    let jms : String × FileNode := ("a.json", .file "\x7b\"component\":[\"jms\"]\x7d".toUTF8)
    let more : String × FileNode := ("b.json", .file "[[[\"ftp\"]],[[\"jms\"]]]".toUTF8)
    let bad : String × FileNode := ("b.json", .file "[[[\"ftp\"]],7]".toUTF8)
    let empty (name : String) : String × FileNode := (name, .directory [])
    let load (entries : List (String × FileNode)) := SchemaIndex.load "d" (.ok (.directory entries))
    ([more, empty "notes", jms].map Prod.fst).Nodup ∧
      load [jms, more] = load [more, empty "notes", jms] ∧
      (∃ index, (load [more, empty "notes", jms]).value = .ok index ∧
        index.toCatalog.names = ["jms", "ftp"]) ∧
      ([empty "c.json", bad, jms].map Prod.fst).Nodup ∧
      (load [empty "c.json", bad, jms]).value = .error
        (.schema "d/b.json" "invalid type: integer `7`, expected struct ComponentSchema") := by
  intro jms more bad empty load
  have once : ([more, empty "notes", jms].map Prod.fst).Nodup := by decide
  have once' : ([empty "c.json", bad, jms].map Prod.fst).Nodup := by decide
  have listing : SchemaIndex.Listing [more, empty "notes", jms] [jms, more] := by
    refine SchemaIndex.listing_of_sorted ?_ (by decide)
    rw [List.filter_cons_of_pos (by decide), List.filter_cons_of_neg (by decide),
      List.filter_cons_of_pos (by decide)]
    exact .swap _ _ _
  have listing' : SchemaIndex.Listing [empty "c.json", bad, jms] [jms, bad, empty "c.json"] := by
    refine SchemaIndex.listing_of_sorted ?_ (by decide)
    rw [List.filter_cons_of_pos (by decide), List.filter_cons_of_pos (by decide),
      List.filter_cons_of_pos (by decide)]
    exact List.reverse_perm [empty "c.json", bad, jms]
  obtain ⟨same, -, inOrder⟩ := directory_is_one_array "d" once
  obtain ⟨-, -, inOrder'⟩ := directory_is_one_array "d" once'
  obtain ⟨fault, holds, decodes, array, -⟩ := inOrder _ listing
  have sound : [jms, more].findSome? (SchemaIndex.fileFault? "d") = none := by
    simp only [List.findSome?_cons, SchemaIndex.fileFault?, jms, more, FileNode.read_toUTF8]
    decide +kernel
  have broken : [jms, bad, empty "c.json"].findSome? (SchemaIndex.fileFault? "d") = some
      (.schema "d/b.json" "invalid type: integer `7`, expected struct ComponentSchema") := by
    simp only [List.findSome?_cons, SchemaIndex.fileFault?, jms, bad, FileNode.read_toUTF8]
    decide +kernel
  refine ⟨once, same _ (by decide) ?_, ?_, once', ?_⟩
  · intro file isSchema
    have ne : file ≠ empty "notes" := by
      rintro rfl
      exact absurd isSchema (by decide)
    simp [ne, or_comm]
  · cases result : (load [more, empty "notes", jms]).value with
    | error reason => exact absurd (sound.symm.trans ((fault reason).mp result)) (by simp)
    | ok index =>
      obtain ⟨documents, hold⟩ := holds index result
      have models := SchemaIndex.flatMap_fileModels hold ((decodes documents hold).mp ⟨index, result⟩)
      have added := array documents hold index result "e.json"
      rw [SchemaIndex.schemasOf] at added
      have represents := SchemaIndex.represents_empty.addSchemas "e.json"
        (documents.flatMap SchemaIndex.schemasOf)
      rw [← models, added] at represents
      refine ⟨index, rfl, represents.names.trans ?_⟩
      simp only [List.flatMap_cons, SchemaIndex.fileModels, jms, more, FileNode.read_toUTF8]
      decide +kernel
  · exact ((inOrder' _ listing').fault _).mpr broken

end EndpointUri
