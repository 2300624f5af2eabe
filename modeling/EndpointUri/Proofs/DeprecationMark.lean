import EndpointUri.Proofs.DirectoryLoad
import Mathlib.Data.List.Forall2
import Mathlib.Data.List.Nodup

/-!
What deprecates a component. Its schema may mark it with any JSON value, and the mark is read as text.
Of the values that are no strings only the truth values have the text of a word: a number begins with a
sign or a digit, an array or an object with its bracket. So a component is deprecated by `true` alone,
as a truth value or spelled in either case.
-/
namespace EndpointUri

/-! ### Letters and words -/

namespace Text

/-- The first is the ASCII capital of the second. -/
def Capital (c d : Char) : Prop := 'A'.toNat ≤ c.toNat ∧ c.toNat ≤ 'Z'.toNat ∧ d.toNat = c.toNat + 32

def SameLetter (c d : Char) : Prop := c = d ∨ Capital c d ∨ Capital d c

/-- Equal up to the case of ASCII letters. -/
def SameSpelling (a b : String) : Prop := List.Forall₂ SameLetter a.toList b.toList

def IsLetter (c : Char) : Prop :=
  'A'.toNat ≤ c.toNat ∧ c.toNat ≤ 'Z'.toNat ∨ 'a'.toNat ≤ c.toNat ∧ c.toNat ≤ 'z'.toNat

instance (c : Char) : Decidable (IsLetter c) := inferInstanceAs (Decidable (_ ∨ _))

/-- There is a first character, and it is no letter. -/
def OpensPlain (cs : List Char) : Prop := ∃ c rest, cs = c :: rest ∧ ¬ IsLetter c

theorem toNat_toLower (c : Char) :
    c.toLower.toNat =
      if 'A'.toNat ≤ c.toNat ∧ c.toNat ≤ 'Z'.toNat then c.toNat + 32 else c.toNat := by
  by_cases capital : c.val ≥ 'A'.val ∧ c.val ≤ 'Z'.val
  · have bounds : 'A'.toNat ≤ c.toNat ∧ c.toNat ≤ 'Z'.toNat := capital
    have lowered : c.toLower.toNat = (c.val + ('a'.val - 'A'.val)).toNat :=
      congrArg Char.toNat (dif_pos capital)
    have small : c.toNat ≤ 90 := bounds.2
    rw [if_pos bounds, lowered, UInt32.toNat_add, Char.toNat_val]
    exact Nat.mod_eq_of_lt (Nat.lt_of_le_of_lt (Nat.add_le_add_right small 32) (by decide))
  · have bounds : ¬ ('A'.toNat ≤ c.toNat ∧ c.toNat ≤ 'Z'.toNat) := capital
    rw [if_neg bounds]
    exact congrArg Char.toNat (dif_neg capital)

theorem toLower_eq_iff {c d : Char} : c.toLower = d.toLower ↔ SameLetter c d := by
  have first : 'A'.toNat = 65 := rfl
  have last : 'Z'.toNat = 90 := rfl
  rw [← Char.toNat_inj, toNat_toLower, toNat_toLower, SameLetter, ← Char.toNat_inj, Capital, Capital]
  split <;> split <;> omega

theorem sameWord_iff {a b : String} : sameWord a b = true ↔ SameSpelling a b := by
  rw [sameWord, beq_iff_eq, foldCase, foldCase, SameSpelling, ← List.forall₂_eq_eq_eq,
    List.forall₂_map_left_iff, List.forall₂_map_right_iff]
  simp only [toLower_eq_iff]

theorem SameLetter.isLetter {c d : Char} (same : SameLetter c d) (letter : IsLetter d) :
    IsLetter c := by
  have bounds : 'A'.toNat = 65 ∧ 'Z'.toNat = 90 ∧ 'a'.toNat = 97 ∧ 'z'.toNat = 122 := by decide
  obtain ⟨capitalA, capitalZ, smallA, smallZ⟩ := bounds
  unfold IsLetter at letter ⊢
  rcases same with rfl | ⟨low, high, -⟩ | ⟨low, high, shifted⟩
  · exact letter
  · left
    exact ⟨low, high⟩
  · right
    omega

/-- A text that opens plain is not spelled as one that opens with a letter. -/
theorem OpensPlain.not_sameSpelling {text word : String} (plain : OpensPlain text.toList)
    (letter : ∃ d rest, word.toList = d :: rest ∧ IsLetter d) : ¬ SameSpelling text word := by
  obtain ⟨c, rest, opens, notLetter⟩ := plain
  obtain ⟨d, others, first, letter⟩ := letter
  intro same
  rw [SameSpelling, opens, first, List.forall₂_cons] at same
  exact notLetter (same.1.isLetter letter)

theorem not_isLetter_of_isDigit {c : Char} (digit : c.isDigit = true) : ¬ IsLetter c := by
  have bounds : '9'.toNat = 57 ∧ 'A'.toNat = 65 ∧ 'a'.toNat = 97 := by decide
  rw [Char.isDigit_iff_toNat] at digit
  unfold IsLetter
  omega

end Text

/-! ### The text of a value -/

namespace Json

def word (b : Bool) : String := if b then "true" else "false"

/-- The value is the truth value, or a string that spells it. -/
inductive Says : Bool → Json → Prop
  | bool (b : Bool) : Says b (.bool b)
  | string {b : Bool} {s : String} (same : Text.SameSpelling s (word b)) : Says b (.string s)

/-- An absent value reads as null, which says nothing. -/
theorem says_getD_iff {value? : Option Json} {b : Bool} :
    (value?.getD .null).Says b ↔ ∃ v, value? = some v ∧ v.Says b := by
  cases value? with
  | none => exact iff_of_false nofun (by rintro ⟨_, ⟨⟩, _⟩)
  | some v => simp

theorem getD_null_eq_null_iff {value? : Option Json} :
    value?.getD .null = .null ↔ value? = none ∨ value? = some .null := by
  cases value? <;> simp

/-- Digits in positional notation begin with a digit. -/
theorem positional_head {digits : List Char} (nonempty : digits ≠ [])
    (all : ∀ c ∈ digits, c.isDigit = true) (exponent : Int) :
    ∃ c rest, positional digits exponent = c :: rest ∧ c.isDigit = true := by
  obtain ⟨d, ds, rfl⟩ := List.exists_cons_of_ne_nil nonempty
  have digit : d.isDigit = true := all d List.mem_cons_self
  unfold positional
  split
  · exact ⟨'0', _, rfl, rfl⟩
  · dsimp only
    split
    · exact ⟨d, _, rfl, digit⟩
    · exact ⟨d, _, rfl, digit⟩

theorem scientific_head {digits : List Char} (nonempty : digits ≠ [])
    (all : ∀ c ∈ digits, c.isDigit = true) (exponent : Int) :
    ∃ c rest, scientific digits exponent = c :: rest ∧ c.isDigit = true := by
  obtain ⟨d, ds, rfl⟩ := List.exists_cons_of_ne_nil nonempty
  exact ⟨d, _, rfl, all d List.mem_cons_self⟩

theorem magnitudeText_head (x : Magnitude) :
    ∃ c rest, magnitudeText x = c :: rest ∧ c.isDigit = true := by
  have nonempty : Nat.toDigits 10 x.shortest.digits ≠ [] := Nat.toDigits_ne_nil
  have all : ∀ c ∈ Nat.toDigits 10 x.shortest.digits, c.isDigit = true :=
    fun _ => Nat.isDigit_of_mem_toDigits (by decide) (by decide)
  unfold magnitudeText
  split
  · exact ⟨'0', _, rfl, rfl⟩
  · dsimp only
    split
    · exact positional_head nonempty all _
    · exact scientific_head nonempty all _

theorem Number.opensPlain_text (n : Number) : Text.OpensPlain n.text.toList := by
  have minus : ¬ Text.IsLetter '-' := by decide
  cases n with
  | integer n =>
    have nonempty : Nat.toDigits 10 n.natAbs ≠ [] := Nat.toDigits_ne_nil
    obtain ⟨d, ds, digits⟩ := List.exists_cons_of_ne_nil nonempty
    have member : d ∈ Nat.toDigits 10 n.natAbs := by
      rw [digits]
      exact List.mem_cons_self
    have digit : d.isDigit = true := Nat.isDigit_of_mem_toDigits (by decide) (by decide) member
    rw [Number.text]
    split
    · rw [String.toList_append]
      exact ⟨'-', _, rfl, minus⟩
    · rw [Nat.toList_repr]
      exact ⟨d, ds, digits, Text.not_isLetter_of_isDigit digit⟩
  | float x =>
    obtain ⟨c, rest, opens, digit⟩ := magnitudeText_head x.magnitude
    rw [Number.text, String.toList_ofList, opens]
    split
    · exact ⟨'-', _, rfl, minus⟩
    · exact ⟨c, rest, rfl, Text.not_isLetter_of_isDigit digit⟩

theorem opensPlain_compact_array (items : List Json) :
    Text.OpensPlain (compact (.array items)).toList := by
  rw [compact, String.toList_append, String.toList_append]
  exact ⟨'[', _, rfl, by decide⟩

theorem opensPlain_compact_object (members : List (String × Json)) :
    Text.OpensPlain (compact (.object members)).toList := by
  rw [compact, String.toList_append, String.toList_append]
  exact ⟨'\x7b', _, rfl, by decide⟩

end Json

/-! ### The meaning of a mark -/

namespace ComponentModel

theorem rawMark_eq_none_iff {v : Json} : rawMark v = none ↔ v = .null := by
  cases v <;> simp [rawMark]

/-- The text kept of a value is a word exactly where the value says it. -/
theorem sameSpelling_rawMark {v : Json} {mark : String} (marked : rawMark v = some mark) (b : Bool) :
    Text.SameSpelling mark (Json.word b) ↔ v.Says b := by
  have letter : ∃ d rest, (Json.word b).toList = d :: rest ∧ Text.IsLetter d := by
    cases b
    · exact ⟨'f', ['a', 'l', 's', 'e'], rfl, by decide⟩
    · exact ⟨'t', ['r', 'u', 'e'], rfl, by decide⟩
  have plain (opens : Text.OpensPlain mark.toList) (unsaid : ¬ v.Says b) :
      Text.SameSpelling mark (Json.word b) ↔ v.Says b :=
    iff_of_false (opens.not_sameSpelling letter) unsaid
  cases v with
  | null => cases marked
  | bool a =>
    obtain rfl : mark = Json.word a := by
      cases a <;> exact (Option.some.inj marked).symm
    rw [← Text.sameWord_iff]
    cases a <;> cases b
    · exact iff_of_true (by decide) (.bool false)
    · exact iff_of_false (by decide) nofun
    · exact iff_of_false (by decide) nofun
    · exact iff_of_true (by decide) (.bool true)
  | string s =>
    obtain rfl : s = mark := Option.some.inj marked
    constructor
    · exact .string
    · intro said
      cases said with
      | string same => exact same
  | number n =>
    obtain rfl : n.text = mark := Option.some.inj marked
    exact plain n.opensPlain_text nofun
  | array items =>
    obtain rfl : Json.compact (.array items) = mark := Option.some.inj marked
    exact plain (Json.opensPlain_compact_array items) nofun
  | object members =>
    obtain rfl : Json.compact (.object members) = mark := Option.some.inj marked
    exact plain (Json.opensPlain_compact_object members) nofun

end ComponentModel

namespace Deprecation

open ComponentModel (rawMark rawMark_eq_none_iff sameSpelling_rawMark)

theorem ofMark_eq_deprecated_iff {mark : String} :
    ofMark (some mark) = deprecated ↔ Text.SameSpelling mark (Json.word true) := by
  rw [← Text.sameWord_iff]
  change _ ↔ Text.sameWord mark "true" = true
  rw [ofMark]
  by_cases yes : Text.sameWord mark "true" = true
  · simp [yes]
  · by_cases no : Text.sameWord mark "false" = true <;> simp [yes, no]

/-- No mark is both words. -/
theorem ofMark_eq_current_iff {mark : String} :
    ofMark (some mark) = current ↔ Text.SameSpelling mark (Json.word false) := by
  rw [← Text.sameWord_iff]
  change _ ↔ Text.sameWord mark "false" = true
  rw [ofMark]
  by_cases yes : Text.sameWord mark "true" = true
  · have folded : Text.foldCase mark = Text.foldCase "true" := beq_iff_eq.mp yes
    have no : Text.sameWord mark "false" = false := by
      rw [Text.sameWord, folded]
      decide
    simp [yes, no]
  · by_cases no : Text.sameWord mark "false" = true <;> simp [yes, no]

theorem ofMark_rawMark_deprecated (v : Json) :
    ofMark (rawMark v) = deprecated ↔ v.Says true := by
  cases marked : rawMark v with
  | none =>
    obtain rfl := rawMark_eq_none_iff.mp marked
    exact iff_of_false nofun nofun
  | some mark => exact ofMark_eq_deprecated_iff.trans (sameSpelling_rawMark marked true)

theorem ofMark_rawMark_current (v : Json) :
    ofMark (rawMark v) = current ↔ v = .null ∨ v.Says false := by
  cases marked : rawMark v with
  | none => exact iff_of_true rfl (.inl (rawMark_eq_none_iff.mp marked))
  | some mark =>
    have present : v ≠ .null := by
      rintro rfl
      cases marked
    rw [or_iff_right present]
    exact ofMark_eq_current_iff.trans (sameSpelling_rawMark marked false)

theorem eq_unrecognized_iff (d : Deprecation) : d = unrecognized ↔ d ≠ deprecated ∧ d ≠ current := by
  cases d <;> decide

end Deprecation

/-! ### From the schema to the candidate -/

/-- The value of a field, by its name in an object or by its place in an array. -/
def Json.field? (name : String) (place : Nat) : Json → Option Json
  | .object members => Json.member? members name
  | .array items => items[place]?
  | _ => none

theorem Json.bind_eq_ok_iff {α β : Type} {x : Json.Shaped α} {f : α → Json.Shaped β} {b : β} :
    x >>= f = .ok b ↔ ∃ a, x = .ok a ∧ f a = .ok b := by
  cases x with
  | error fault => exact iff_of_false nofun (by rintro ⟨_, ⟨⟩, _⟩)
  | ok a =>
    constructor
    · intro built
      exact ⟨a, rfl, built⟩
    · rintro ⟨_, ⟨⟩, built⟩
      exact built

namespace ComponentModel

open Json (bind_eq_ok_iff)

/-- The value that a schema marks its component with, if there is one. -/
def markValue? (schema : Json) : Option Json :=
  (schema.field? "component" 0).bind (Json.field? "deprecated" 2)

variable {component schema : Json} {model : ComponentModel}

theorem deprecated_of_ofComponent (decodes : ofComponent component = .ok model) :
    model.deprecated = rawMark ((component.field? "deprecated" 2).getD .null) := by
  cases component with
  | object members =>
    rw [ofComponent, bind_eq_ok_iff] at decodes
    obtain ⟨description, -, decodes⟩ := decodes
    obtain ⟨scheme?, -, built⟩ := bind_eq_ok_iff.mp decodes
    cases scheme? with
    | none => cases built
    | some scheme =>
      cases built
      rfl
  | array items =>
    cases items with
    | nil => cases decodes
    | cons first rest =>
      rw [ofComponent, bind_eq_ok_iff] at decodes
      obtain ⟨scheme, -, decodes⟩ := decodes
      obtain ⟨description, -, decodes⟩ := bind_eq_ok_iff.mp decodes
      obtain ⟨-, -, built⟩ := bind_eq_ok_iff.mp decodes
      cases built
      rfl
  | null | bool _ | number _ | string _ => cases decodes

theorem deprecated_of_ofSchema (decodes : ofSchema schema = .ok model) :
    model.deprecated = rawMark ((markValue? schema).getD .null) := by
  cases schema with
  | object members =>
    rw [ofSchema] at decodes
    cases found : Json.member? members "component" with
    | none =>
      rw [found] at decodes
      cases decodes
    | some component =>
      rw [found] at decodes
      rw [deprecated_of_ofComponent decodes, markValue?, Json.field?, found, Option.bind_some]
  | array items =>
    cases items with
    | nil => cases decodes
    | cons first rest =>
      rw [ofSchema, bind_eq_ok_iff] at decodes
      obtain ⟨inner, component, decodes⟩ := decodes
      obtain ⟨-, -, built⟩ := bind_eq_ok_iff.mp decodes
      cases built
      exact deprecated_of_ofComponent component
  | null | bool _ | number _ | string _ => cases decodes

theorem deprecation_of_ofSchema (decodes : ofSchema schema = .ok model) :
    model.deprecation = Deprecation.ofMark (rawMark ((markValue? schema).getD .null)) := by
  rw [deprecation, deprecated_of_ofSchema decodes]

end ComponentModel

namespace SchemaIndex

theorem exists_schema_of_mem_decoded {schemas : List Json} {model : ComponentModel}
    (member : model ∈ decoded schemas) :
    ∃ schema ∈ schemas, ComponentModel.ofSchema schema = .ok model := by
  induction schemas with
  | nil => cases member
  | cons schema rest ih =>
    rw [decoded] at member
    cases outcome : ComponentModel.ofSchema schema with
    | error fault =>
      rw [outcome] at member
      cases member
    | ok first =>
      rw [outcome] at member
      rcases List.mem_cons.mp member with rfl | later
      · exact ⟨schema, List.mem_cons_self, outcome⟩
      · obtain ⟨source, listed, decodes⟩ := ih later
        exact ⟨source, List.mem_cons_of_mem _ listed, decodes⟩

/-- The first schema of a scheme gives the model of that scheme. -/
theorem find?_decoded {before after : List Json} {schema : Json} {model : ComponentModel}
    (decodes : Decodes before) (decoded_eq : ComponentModel.ofSchema schema = .ok model)
    (new : ∀ earlier ∈ before, ∀ other, ComponentModel.ofSchema earlier = .ok other →
      other.scheme ≠ model.scheme) :
    (decoded (before ++ schema :: after)).find? (·.scheme == model.scheme) = some model := by
  have absent : (decoded before).find? (·.scheme == model.scheme) = none := by
    rw [List.find?_eq_none]
    intro other member same
    obtain ⟨earlier, listed, outcome⟩ := exists_schema_of_mem_decoded member
    exact new earlier listed other outcome (beq_iff_eq.mp same)
  rw [decoded_append decodes, List.find?_append, absent, Option.none_or, decoded, decoded_eq]
  exact List.find?_cons_of_pos (beq_self_eq_true _)

variable {index : SchemaIndex} {given : List ComponentModel} {model : ComponentModel}

theorem Represents.lookup_first (represents : index.Represents given)
    (first : given.find? (·.scheme == model.scheme) = some model) :
    index.lookup model.scheme = .ok model := by
  have found := represents.model_eq model.scheme
  simp only [Catalog.ofModels, first] at found
  exact found

/-- The first model of a scheme has the one candidate with that label. -/
theorem Represents.candidate (represents : index.Represents given)
    (first : given.find? (·.scheme == model.scheme) = some model) (scheme : Token) :
    ∃ candidates, generate index.toCatalog scheme = .ok candidates ∧
      ∀ candidate, candidate ∈ candidates ∧ candidate.label = model.scheme ↔
        candidate = Candidate.ofModel scheme.span model := by
  refine ⟨_, represents.agrees.generate_eq scheme, fun candidate => ?_⟩
  have member : model ∈ index.models := by
    apply List.mem_of_find?_eq_some
    rw [represents.first, first]
  constructor
  · rintro ⟨listed, label⟩
    obtain ⟨other, known, rfl⟩ := List.mem_map.mp listed
    rw [List.inj_on_of_nodup_map represents.agrees.nodup known member label]
  · rintro rfl
    exact ⟨List.mem_map_of_mem member, rfl⟩

theorem represents_keepAll (text : String) :
    (empty.keepAll (modelsOf text)).Represents (modelsOf text) := by
  have represents := represents_empty.addDocument "" text
  rwa [addDocument_value, List.nil_append] at represents

/-- A document whose schemas all decode is the catalog of their models. -/
theorem ofDocument_decodes {text : String} {document : Json}
    (parsed : Json.parse text = some document) (decodes : Decodes (schemasOf document))
    (origin : String) :
    ∃ index, (ofDocument origin text).value = .ok index ∧
      index.Represents (decoded (schemasOf document)) := by
  have sound : documentFault? origin text = none := by
    rw [documentFault?, parsed]
    exact findSome?_schemaFault?.mpr decodes
  have models : modelsOf text = decoded (schemasOf document) := by
    rw [modelsOf, parsed]
  refine ⟨empty.keepAll (modelsOf text), ?_, ?_⟩
  · rw [ofDocument_value, sound]
    rfl
  · rw [← models]
    exact represents_keepAll text

end SchemaIndex

/-- Whatever value a schema marks its component with, `true` alone deprecates, as a truth value or as a
string in either case. A component that is the first of its scheme in a document has one candidate, and
the candidate has that flag. A mark that is absent, null or `false` leaves the component current, and
every other value is not understood. -/
theorem only_true_deprecates {text : String} {document schema : Json} {before after : List Json}
    {model : ComponentModel} (parsed : Json.parse text = some document)
    (schemas : SchemaIndex.schemasOf document = before ++ schema :: after)
    (others : SchemaIndex.Decodes (before ++ after))
    (decodes : ComponentModel.ofSchema schema = .ok model)
    (new : ∀ earlier ∈ before, ∀ other, ComponentModel.ofSchema earlier = .ok other →
      other.scheme ≠ model.scheme) (origin : String) :
    (∃ index, (SchemaIndex.ofDocument origin text).value = .ok index ∧
      index.lookup model.scheme = .ok model ∧
      ∀ scheme : Token, ∃ candidates candidate,
        generate index.toCatalog scheme = .ok candidates ∧
        (∀ other, other ∈ candidates ∧ other.label = model.scheme ↔ other = candidate) ∧
        (candidate.deprecated = true ↔
          ∃ v, ComponentModel.markValue? schema = some v ∧ v.Says true)) ∧
    (model.deprecation = .deprecated ↔
      ∃ v, ComponentModel.markValue? schema = some v ∧ v.Says true) ∧
    (model.deprecation = .current ↔
      ComponentModel.markValue? schema = none ∨ ComponentModel.markValue? schema = some .null ∨
        ∃ v, ComponentModel.markValue? schema = some v ∧ v.Says false) ∧
    (model.deprecation = .unrecognized ↔
      ∃ v, ComponentModel.markValue? schema = some v ∧ v ≠ .null ∧ ¬ v.Says true ∧
        ¬ v.Says false) := by
  obtain ⟨decodesBefore, decodesAfter⟩ := SchemaIndex.decodes_append.mp others
  have all : SchemaIndex.Decodes (SchemaIndex.schemasOf document) := by
    rw [schemas, SchemaIndex.decodes_append]
    exact ⟨decodesBefore, List.forall_mem_cons.mpr ⟨⟨model, decodes⟩, decodesAfter⟩⟩
  have first : (SchemaIndex.decoded (before ++ schema :: after)).find? (·.scheme == model.scheme) =
      some model := SchemaIndex.find?_decoded decodesBefore decodes new
  have meaning := ComponentModel.deprecation_of_ofSchema decodes
  have deprecated : model.deprecation = .deprecated ↔
      ∃ v, ComponentModel.markValue? schema = some v ∧ v.Says true := by
    rw [meaning, Deprecation.ofMark_rawMark_deprecated, Json.says_getD_iff]
  have current : model.deprecation = .current ↔
      ComponentModel.markValue? schema = none ∨ ComponentModel.markValue? schema = some .null ∨
        ∃ v, ComponentModel.markValue? schema = some v ∧ v.Says false := by
    rw [meaning, Deprecation.ofMark_rawMark_current, Json.says_getD_iff, ← or_assoc,
      Json.getD_null_eq_null_iff]
  refine ⟨?_, deprecated, current, ?_⟩
  · obtain ⟨index, built, represents⟩ := SchemaIndex.ofDocument_decodes parsed all origin
    rw [schemas] at represents
    refine ⟨index, built, ?_, fun scheme => ?_⟩
    · exact represents.lookup_first first
    · obtain ⟨candidates, generated, only⟩ := represents.candidate first scheme
      refine ⟨candidates, Candidate.ofModel scheme.span model, generated, only, ?_⟩
      rw [← deprecated]
      exact beq_iff_eq
  · rw [Deprecation.eq_unrecognized_iff, ne_eq, ne_eq, deprecated, current]
    cases ComponentModel.markValue? schema with
    | none => simp
    | some v => simp [and_left_comm]

/-- A word in mixed case, behind a component that is marked with an array. -/
theorem only_true_deprecates_in_mixed_case :
    let text := "[[[\"timer\", null, [true]]], \x7b\"component\": \x7b\"deprecated\": \"tRuE\", " ++
      "\"scheme\": \"ftp\"\x7d\x7d]"
    ∃ index, (SchemaIndex.ofDocument "camel.json" text).value = .ok index ∧
      index.lookup "ftp" = .ok ⟨"ftp", none, some "tRuE"⟩ ∧
      ∀ scheme : Token, ∃ candidates, generate index.toCatalog scheme = .ok candidates ∧
        ∃ candidate ∈ candidates, candidate.label = "ftp" ∧ candidate.deprecated = true := by
  intro text
  -- What the schemas decode to, with the marks that are strings.
  have contents : (Json.parse text).map (fun document => (SchemaIndex.schemasOf document).map
      fun schema => ((ComponentModel.ofSchema schema).toOption,
        (ComponentModel.markValue? schema).bind fun v => (Json.toText v).toOption)) =
      some [(some ⟨"timer", none, some "[true]"⟩, none),
        (some ⟨"ftp", none, some "tRuE"⟩, some "tRuE")] := by decide +kernel
  have ok_of_toOption {α : Type} {x : Json.Shaped α} {a : α} (known : x.toOption = some a) :
      x = .ok a := by
    cases x with
    | error fault => cases known
    | ok b => exact congrArg Except.ok (Option.some.inj known)
  obtain ⟨document, parsed, listed⟩ := Option.map_eq_some_iff.mp contents
  obtain ⟨timer, rest, schemas, timerRead, restRead⟩ := List.map_eq_cons_iff.mp listed
  obtain ⟨ftp, more, rfl, ftpRead, moreRead⟩ := List.map_eq_cons_iff.mp restRead
  obtain rfl := List.map_eq_nil_iff.mp moreRead
  have timerDecodes := ok_of_toOption (Prod.mk.inj timerRead).1
  have ftpDecodes := ok_of_toOption (Prod.mk.inj ftpRead).1
  obtain ⟨v, marked, spelled⟩ := Option.bind_eq_some_iff.mp (Prod.mk.inj ftpRead).2
  have said : v.Says true := by
    cases v with
    | string s =>
      obtain rfl : s = "tRuE" := Option.some.inj spelled
      exact .string (Text.sameWord_iff.mp (by decide))
    | null | bool _ | number _ | array _ | object _ => cases spelled
  have split : SchemaIndex.schemasOf document = [timer] ++ ftp :: [] := schemas
  have others : SchemaIndex.Decodes ([timer] ++ []) :=
    List.forall_mem_singleton.mpr ⟨_, timerDecodes⟩
  obtain ⟨⟨index, built, found, offered⟩, -⟩ :=
    only_true_deprecates parsed split others ftpDecodes (by
      rintro earlier listed other decodes
      obtain rfl := List.mem_singleton.mp listed
      obtain rfl := Except.ok.inj (timerDecodes.symm.trans decodes)
      decide) "camel.json"
  refine ⟨index, built, found, fun scheme => ?_⟩
  obtain ⟨candidates, candidate, generated, only, flag⟩ := offered scheme
  obtain ⟨member, label⟩ := (only candidate).mpr rfl
  exact ⟨candidates, generated, candidate, member, label, flag.mpr ⟨v, marked, said⟩⟩

end EndpointUri
