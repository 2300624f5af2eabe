import EndpointUri.Command.Print
import EndpointUri.Json.Reader
import EndpointUri.Json.Shape
import Mathlib.Data.List.TakeDrop
import Mathlib.Tactic.SplitIfs

/-!
Printed JSON read back. A value whose numbers are words and that is not nested too deep is the value
that its text has, except that the members of an object come back in the order of their keys. So a
list of candidates can be read off the text that it is printed as.
-/
namespace EndpointUri
namespace Json

/-! ### Blanks -/

theorem skipBlanks_append {blanks : List Char} (blank : ∀ c ∈ blanks, isBlank c = true)
    (cs : List Char) : skipBlanks (blanks ++ cs) = skipBlanks cs :=
  List.dropWhile_append_of_pos blank

theorem skipBlanks_cons {c : Char} (visible : isBlank c = false) (cs : List Char) :
    skipBlanks (c :: cs) = c :: cs :=
  List.dropWhile_cons_of_neg (by simp [visible])

theorem blank_newline (depth : Nat) : ∀ c ∈ (newline depth).toList, isBlank c = true := by
  intro c member
  rw [newline, String.toList_ofList, List.mem_cons] at member
  rcases member with rfl | indent
  · rfl
  · rw [List.eq_of_mem_replicate indent]
    rfl

theorem skipBlanks_newline (depth : Nat) {c : Char} (visible : isBlank c = false) (cs : List Char) :
    skipBlanks ((newline depth).toList ++ c :: cs) = c :: cs := by
  rw [skipBlanks_append (blank_newline depth), skipBlanks_cons visible]

theorem readValue_append {blanks : List Char} (blank : ∀ c ∈ blanks, isBlank c = true)
    (fuel depth : Nat) (cs : List Char) :
    readValue fuel depth (blanks ++ cs) = readValue fuel depth cs := by
  cases fuel with
  | zero => rfl
  | succ fuel => rw [readValue, readValue, skipBlanks_append blank]

theorem readValue_space (fuel depth : Nat) (cs : List Char) :
    readValue fuel depth (' ' :: cs) = readValue fuel depth cs := by
  have spaced : ∀ c ∈ [' '], isBlank c = true := by simp [isBlank]
  exact readValue_append spaced fuel depth cs

theorem readItems_append {blanks : List Char} (blank : ∀ c ∈ blanks, isBlank c = true)
    (fuel depth : Nat) (cs : List Char) :
    readItems fuel depth (blanks ++ cs) = readItems fuel depth cs := by
  cases fuel with
  | zero => rfl
  | succ fuel => rw [readItems, readItems, readValue_append blank]

theorem readMembers_append {blanks : List Char} (blank : ∀ c ∈ blanks, isBlank c = true)
    (fuel depth : Nat) (cs : List Char) :
    readMembers fuel depth (blanks ++ cs) = readMembers fuel depth cs := by
  cases fuel with
  | zero => rfl
  | succ fuel => rw [readMembers, readMembers, skipBlanks_append blank]

/-! ### Strings -/

theorem hexValue?_digitChar : ∀ n < 16, hexValue? (Nat.digitChar n) = some n := by decide

theorem charOf?_toNat (c : Char) : charOf? c.toNat = some c := by
  have valid : c.toNat.isValidChar := c.valid
  rw [charOf?, if_pos valid, Char.ofNat_toNat]

theorem bind_cons_eq_map (c : Char) (read : Option (List Char × List Char)) :
    (do let (cs, rest) ← read; return (c :: cs, rest)) =
      read.map fun (cs, rest) => (c :: cs, rest) := by
  cases read <;> rfl

theorem readChars_plain {c : Char} (unquoted : c ≠ '"') (unescaped : c ≠ '\\')
    (visible : ¬ c.toNat < 0x20) (rest : List Char) :
    readChars (c :: rest) = (readChars rest).map fun (cs, rest) => (c :: cs, rest) := by
  rw [← bind_cons_eq_map]
  simp [readChars, unescaped, visible]

theorem readChars_letter {letter c : Char} (means : escapeOf? letter = some c) (rest : List Char) :
    readChars ('\\' :: letter :: rest) = (readChars rest).map fun (cs, rest) => (c :: cs, rest) := by
  have other : letter ≠ 'u' := by
    rintro rfl
    contradiction
  rw [← bind_cons_eq_map]
  simp [readChars, other, means]

theorem readChars_hex {w x y z c : Char} (means : hexWord? [w, x, y, z] = some c.toNat)
    (rest : List Char) :
    readChars ('\\' :: 'u' :: w :: x :: y :: z :: rest) =
      (readChars rest).map fun (cs, rest) => (c :: cs, rest) := by
  rw [← bind_cons_eq_map]
  simp [readChars, means, charOf?_toNat]

/-- Whatever follows a character that was escaped, it is read as that character. -/
theorem readChars_escapeChar (c : Char) (rest : List Char) :
    readChars (escapeChar c ++ rest) = (readChars rest).map fun (cs, rest) => (c :: cs, rest) := by
  unfold escapeChar
  split_ifs with quote backslash backspace formFeed lineFeed carriageReturn tab control
  · subst quote
    exact readChars_letter rfl rest
  · subst backslash
    exact readChars_letter rfl rest
  · subst backspace
    exact readChars_letter rfl rest
  · subst formFeed
    exact readChars_letter rfl rest
  · subst lineFeed
    exact readChars_letter rfl rest
  · subst carriageReturn
    exact readChars_letter rfl rest
  · subst tab
    exact readChars_letter rfl rest
  · -- A control without a letter of its own is written by its two hexadecimal digits.
    have high := hexValue?_digitChar (c.toNat / 16) (by omega)
    have low := hexValue?_digitChar (c.toNat % 16) (by omega)
    have zero : hexValue? '0' = some 0 := rfl
    apply readChars_hex
    simp only [hexWord?, List.foldlM_cons, List.foldlM_nil, zero, high, low, Option.map_some,
      Option.bind_eq_bind, Option.bind_some, Option.pure_def, Option.some.injEq]
    omega
  · exact readChars_plain quote backslash control rest

theorem readChars_escaped (cs rest : List Char) :
    readChars (cs.flatMap escapeChar ++ '"' :: rest) = some (cs, rest) := by
  induction cs with
  | nil => rfl
  | cons c cs ih =>
    rw [List.flatMap_cons, List.append_assoc, readChars_escapeChar, ih]
    rfl

theorem toList_quote (s : String) :
    (quote s).toList = '"' :: (s.toList.flatMap escapeChar ++ ['"']) := by
  rw [quote, String.toList_ofList, List.cons_append]

theorem readString_quote (s : String) (rest : List Char) :
    readString ((quote s).toList ++ rest) = some (s, rest) := by
  rw [toList_quote, List.cons_append, List.append_assoc, List.singleton_append, readString,
    readChars_escaped, Option.map_some]
  simp only [String.ofList_toList]

/-! ### Numbers -/

/-- What may follow a value: nothing, a comma or a new line. -/
def EndsValue (rest : List Char) : Prop := ∀ c ∈ rest.head?, c = ',' ∨ c = '\n'

theorem le_ofDigitChars (digits : List Char) (significand : Nat) :
    significand ≤ Nat.ofDigitChars 10 digits significand := by
  induction digits generalizing significand with
  | nil => exact Nat.le_refl significand
  | cons d ds ih =>
    rw [Nat.ofDigitChars_cons]
    exact Nat.le_trans (by omega) (ih _)

theorem absorb_eq {significand : Nat} {digits : List Char}
    (word : Nat.ofDigitChars 10 digits significand ≤ maxWord) :
    absorb significand digits = (Nat.ofDigitChars 10 digits significand, []) := by
  induction digits generalizing significand with
  | nil => rfl
  | cons d ds ih =>
    rw [Nat.ofDigitChars_cons, Nat.mul_comm] at word ⊢
    have fits : significand * 10 + digitValue d ≤ maxWord := Nat.le_trans (le_ofDigitChars ds _) word
    rw [absorb, if_pos fits]
    exact ih word

/-- A number does not begin with a zero, unless it is zero. -/
theorem toDigits_eq_cons {n : Nat} (positive : 0 < n) :
    ∃ d ds, Nat.toDigits 10 n = d :: ds ∧ d ≠ '0' := by
  induction n using Nat.strongRecOn with
  | ind n ih =>
    rcases Nat.lt_or_ge n 10 with small | large
    · refine ⟨_, [], Nat.toDigits_of_lt_base small, ?_⟩
      rw [Ne, Nat.digitChar_eq_zero]
      omega
    · obtain ⟨d, ds, digits, nonzero⟩ := ih (n / 10) (by omega) (by omega)
      exact ⟨d, _, by rw [Nat.toDigits_of_base_le (by decide) large, digits, List.cons_append], nonzero⟩

theorem takeDigits_append {digits rest : List Char} (all : ∀ d ∈ digits, d.isDigit = true)
    (ends : EndsValue rest) : takeDigits (digits ++ rest) = (digits, rest) := by
  have none : ∀ d ∈ rest.head?, d.isDigit = false := by
    intro d first
    rcases ends d first with rfl | rfl <;> rfl
  rw [takeDigits, List.span_eq_takeWhile_dropWhile, List.takeWhile_append_of_pos all,
    List.dropWhile_append_of_pos all]
  cases rest with
  | nil => simp
  | cons d ds =>
    have other : ¬ d.isDigit = true := by simp [none d rfl]
    rw [List.takeWhile_cons_of_neg other, List.dropWhile_cons_of_neg other, List.append_nil]

theorem isDigit_of_mem_toDigits {n : Nat} {d : Char} (member : d ∈ Nat.toDigits 10 n) :
    d.isDigit = true :=
  Nat.isDigit_of_mem_toDigits (by decide) (by decide) member

theorem readWhole_toDigits (n : Nat) {rest : List Char} (ends : EndsValue rest) :
    readWhole (Nat.toDigits 10 n ++ rest) = some (Nat.toDigits 10 n, rest) := by
  have read : readDigits (Nat.toDigits 10 n ++ rest) = some (Nat.toDigits 10 n, rest) := by
    rw [readDigits, takeDigits_append (fun _ => isDigit_of_mem_toDigits) ends]
    split
    next nothing => exact absurd (congrArg Prod.fst nothing) Nat.toDigits_ne_nil
    next => rfl
  rw [readWhole, read]
  split
  next d ds rest' zero =>
    rcases Nat.eq_zero_or_pos n with rfl | positive
    · cases zero
    · obtain ⟨d', ds', digits, nonzero⟩ := toDigits_eq_cons positive
      rw [digits] at zero
      cases zero
      exact absurd rfl nonzero
  next => rfl

theorem exists_cons_toDigits (n : Nat) :
    ∃ d ds, Nat.toDigits 10 n = d :: ds ∧ d.isDigit = true := by
  obtain ⟨d, ds, same⟩ := List.exists_cons_of_ne_nil (Nat.toDigits_ne_nil : Nat.toDigits 10 n ≠ [])
  have member : d ∈ Nat.toDigits 10 n := by simp [same]
  exact ⟨d, ds, same, isDigit_of_mem_toDigits member⟩

theorem readNumber_repr {n : Nat} (word : n ≤ maxWord) {rest : List Char} (ends : EndsValue rest) :
    readNumber ((Nat.repr n).toList ++ rest) = some (.integer n, rest) := by
  have value : absorb 0 (Nat.toDigits 10 n) = (n, []) := by
    have digits : Nat.ofDigitChars 10 (Nat.toDigits 10 n) 0 = n := Nat.ofDigitChars_ten_toDigits
    rw [absorb_eq (by rwa [digits]), digits]
  have integer : readInteger false (Nat.toDigits 10 n) = some (.integer n) := by
    simp only [readInteger, value]
  have fraction : readFraction rest = some (none, rest) := by
    unfold readFraction
    split
    next => simp [EndsValue] at ends
    next => rfl
  have exponent : readExponent rest = some (none, rest) := by
    unfold readExponent
    split
    next => simp [EndsValue] at ends
    next => simp [EndsValue] at ends
    next => rfl
  have unsigned : readUnsigned false (Nat.toDigits 10 n ++ rest) = some (.integer n, rest) := by
    simp only [readUnsigned, readWhole_toDigits n ends, fraction, exponent, integer,
      Option.bind_eq_bind, Option.bind_some, Option.pure_def]
  rw [Nat.toList_repr]
  unfold readNumber
  split
  next digits minus =>
    obtain ⟨d, ds, same, digit⟩ := exists_cons_toDigits n
    rw [same] at minus
    cases minus
    contradiction
  next => exact unsigned

/-! ### Values -/

mutual

/-- Whether the value can be read where `depth` arrays and objects may still be opened: its numbers
are words, and it is not nested deeper. -/
def readable : Json → Nat → Bool
  | array items, depth + 1 => readableItems items depth
  | object members, depth + 1 => readableMembers members depth
  | array _, 0 | object _, 0 => false
  | number (.integer n), _ => 0 ≤ n && n ≤ maxWord
  | number (.float _), _ => false
  | null, _ | bool _, _ | string _, _ => true

def readableItems : List Json → Nat → Bool
  | [], _ => true
  | item :: rest, depth => item.readable depth && readableItems rest depth

def readableMembers : List (String × Json) → Nat → Bool
  | [], _ => true
  | (_, value) :: rest, depth => value.readable depth && readableMembers rest depth

end

mutual

/-- The value with the members of its objects as they are read. -/
def sorted : Json → Json
  | array items => array (sortedItems items)
  | object members => object (sortedMembers members)
  | leaf => leaf

def sortedItems : List Json → List Json
  | [] => []
  | item :: rest => sorted item :: sortedItems rest

def sortedMembers : List (String × Json) → List (String × Json)
  | [] => []
  | (key, value) :: rest => insertMember key (sorted value) (sortedMembers rest)

end

/-- What follows the first item, up to the end of the last. -/
def laterItems (depth : Nat) : List Json → List Char
  | [] => []
  | item :: rest => ',' :: (prettyItems depth (item :: rest)).toList

def laterMembers (depth : Nat) : List (String × Json) → List Char
  | [] => []
  | member :: rest => ',' :: (prettyMembers depth (member :: rest)).toList

theorem toList_prettyItems (depth : Nat) (item : Json) (rest : List Json) :
    (prettyItems depth (item :: rest)).toList =
      (newline depth).toList ++ ((pretty depth item).toList ++ laterItems depth rest) := by
  cases rest <;> simp [prettyItems, laterItems]

theorem toList_prettyMembers (depth : Nat) (key : String) (value : Json)
    (rest : List (String × Json)) :
    (prettyMembers depth ((key, value) :: rest)).toList =
      (newline depth).toList ++ ((quote key).toList ++
        (':' :: ' ' :: ((pretty depth value).toList ++ laterMembers depth rest))) := by
  cases rest <;> simp [prettyMembers, laterMembers]

theorem toList_pretty_array (indent : Nat) (item : Json) (rest : List Json) :
    (pretty indent (array (item :: rest))).toList =
      '[' :: ((prettyItems (indent + 1) (item :: rest)).toList ++
        ((newline indent).toList ++ [']'])) := by
  simp [pretty]

theorem toList_pretty_object (indent : Nat) (member : String × Json)
    (rest : List (String × Json)) :
    (pretty indent (object (member :: rest))).toList =
      '\x7b' :: ((prettyMembers (indent + 1) (member :: rest)).toList ++
        ((newline indent).toList ++ ['\x7d'])) := by
  simp [pretty]

theorem length_newline_pos (depth : Nat) : 0 < (newline depth).toList.length := by
  simp [newline]

theorem endsValue_newline (depth : Nat) (cs : List Char) :
    EndsValue ((newline depth).toList ++ cs) := by
  simp [EndsValue, newline]

theorem endsValue_comma (cs : List Char) : EndsValue (',' :: cs) := by
  simp [EndsValue]

theorem isBlank_of_isDigit {d : Char} (digit : d.isDigit = true) : isBlank d = false := by
  simp only [isBlank, Bool.or_eq_false_iff, beq_eq_false_iff_ne]
  refine ⟨⟨⟨?_, ?_⟩, ?_⟩, ?_⟩ <;> (rintro rfl; contradiction)

theorem readValue_repr {n : Nat} (word : n ≤ maxWord) {rest : List Char} (ends : EndsValue rest)
    (fuel depth : Nat) :
    readValue (fuel + 1) depth ((Nat.repr n).toList ++ rest) =
      some (number (.integer n), rest) := by
  obtain ⟨d, ds, same, digit⟩ := exists_cons_toDigits n
  have read := readNumber_repr word ends
  rw [Nat.toList_repr, same, List.cons_append] at read ⊢
  rw [readValue, skipBlanks_cons (isBlank_of_isDigit digit)]
  -- No other kind of value begins with a digit.
  split
  case h_7 => rw [read, Option.map_some]
  all_goals
    rename_i text
    obtain ⟨rfl, -⟩ := List.cons.inj text
    contradiction

theorem pretty_number {depth : Nat} {n : Number} (ok : (number n).readable depth = true) :
    ∃ k : Nat, k ≤ maxWord ∧ n = .integer k ∧ ∀ indent, pretty indent (number n) = Nat.repr k := by
  cases n with
  | float x => simp [readable] at ok
  | integer n =>
    simp only [readable, Bool.and_eq_true, decide_eq_true_eq] at ok
    obtain ⟨k, rfl⟩ := Int.eq_ofNat_of_zero_le ok.1
    refine ⟨k, Int.ofNat_le.mp ok.2, rfl, fun indent => ?_⟩
    rw [pretty, Number.text, if_neg (by omega), Int.natAbs_natCast]

/-- A text that can be read begins with a character that is neither blank nor a closing bracket. -/
theorem exists_cons_pretty {depth : Nat} {v : Json} (ok : v.readable depth = true) (indent : Nat) :
    ∃ c cs, (pretty indent v).toList = c :: cs ∧ isBlank c = false ∧ c ≠ ']' := by
  cases v with
  | null => exact ⟨'n', ['u', 'l', 'l'], by simp [pretty], rfl, by decide⟩
  | bool b =>
    cases b with
    | true => exact ⟨'t', ['r', 'u', 'e'], by simp [pretty], rfl, by decide⟩
    | false => exact ⟨'f', ['a', 'l', 's', 'e'], by simp [pretty], rfl, by decide⟩
  | number n =>
    obtain ⟨k, -, -, text⟩ := pretty_number ok
    obtain ⟨d, ds, same, digit⟩ := exists_cons_toDigits k
    refine ⟨d, ds, by rw [text, Nat.toList_repr, same], isBlank_of_isDigit digit, ?_⟩
    rintro rfl
    contradiction
  | string s => exact ⟨_, _, toList_quote s, rfl, by decide⟩
  | array items =>
    cases items with
    | nil => exact ⟨'[', [']'], by simp [pretty], rfl, by decide⟩
    | cons item rest => exact ⟨_, _, toList_pretty_array indent item rest, rfl, by decide⟩
  | object members =>
    cases members with
    | nil => exact ⟨'\x7b', ['\x7d'], by simp [pretty], rfl, by decide⟩
    | cons member rest => exact ⟨_, _, toList_pretty_object indent member rest, rfl, by decide⟩

section Opening

variable {fuel depth : Nat} {blanks : List Char} (blank : ∀ c ∈ blanks, isBlank c = true) {c : Char}
  (visible : isBlank c = false) {cs rest : List Char}
include blank visible

theorem readValue_array (opens : c ≠ ']') {items : List Json}
    (read : readItems fuel depth (blanks ++ c :: cs) = some (items, rest)) :
    readValue (fuel + 1) (depth + 1) ('[' :: (blanks ++ c :: cs)) = some (array items, rest) := by
  rw [readItems_append blank] at read
  rw [readValue, skipBlanks_cons rfl]
  simp [skipBlanks_append blank, skipBlanks_cons visible, opens, read]

theorem readValue_object (opens : c ≠ '\x7d') {members : List (String × Json)}
    (read : readMembers fuel depth (blanks ++ c :: cs) = some (members, rest)) :
    readValue (fuel + 1) (depth + 1) ('\x7b' :: (blanks ++ c :: cs)) =
      some (object members, rest) := by
  rw [readMembers_append blank] at read
  rw [readValue, skipBlanks_cons rfl]
  simp [skipBlanks_append blank, skipBlanks_cons visible, opens, read]

end Opening

section Elements

variable {fuel depth : Nat} {cs rest rest' : List Char} {value : Json}

theorem readItems_last (read : readValue fuel depth cs = some (value, rest))
    (closes : skipBlanks rest = ']' :: rest') :
    readItems (fuel + 1) depth cs = some ([value], rest') := by
  simp [readItems, read, closes]

theorem readItems_more {items : List Json}
    (read : readValue fuel depth cs = some (value, ',' :: rest))
    (later : readItems fuel depth rest = some (items, rest')) :
    readItems (fuel + 1) depth cs = some (value :: items, rest') := by
  simp [readItems, read, skipBlanks_cons (c := ',') rfl, later]

theorem skipBlanks_quote (key : String) (cs : List Char) :
    skipBlanks ((quote key).toList ++ cs) = (quote key).toList ++ cs := by
  rw [toList_quote, List.cons_append, skipBlanks_cons rfl]

theorem readMembers_last (key : String) (read : readValue fuel depth cs = some (value, rest))
    (closes : skipBlanks rest = '\x7d' :: rest') :
    readMembers (fuel + 1) depth ((quote key).toList ++ ':' :: cs) =
      some ([(key, value)], rest') := by
  rw [readMembers, skipBlanks_quote, readString_quote]
  simp [skipBlanks_cons (c := ':') rfl, read, closes]

theorem readMembers_more {members : List (String × Json)} (key : String)
    (read : readValue fuel depth cs = some (value, ',' :: rest))
    (later : readMembers fuel depth rest = some (members, rest')) :
    readMembers (fuel + 1) depth ((quote key).toList ++ ':' :: cs) =
      some (insertMember key value members, rest') := by
  rw [readMembers, skipBlanks_quote, readString_quote]
  simp [skipBlanks_cons (c := ':') rfl, read, skipBlanks_cons (c := ',') rfl, later]

end Elements

/-- Texts no longer than the fuel read back, whatever follows them. -/
structure ReadsBack (fuel : Nat) : Prop where
  value : ∀ (v : Json) (indent depth : Nat) (rest : List Char), v.readable depth = true →
    (pretty indent v).toList.length ≤ fuel → EndsValue rest →
    readValue fuel depth ((pretty indent v).toList ++ rest) = some (v.sorted, rest)
  items : ∀ (item : Json) (items : List Json) (indent outer depth : Nat) (rest : List Char),
    readableItems (item :: items) depth = true →
    (prettyItems indent (item :: items)).toList.length ≤ fuel →
    readItems fuel depth ((prettyItems indent (item :: items)).toList ++
      ((newline outer).toList ++ ']' :: rest)) = some (sortedItems (item :: items), rest)
  members : ∀ (key : String) (value : Json) (members : List (String × Json))
    (indent outer depth : Nat) (rest : List Char),
    readableMembers ((key, value) :: members) depth = true →
    (prettyMembers indent ((key, value) :: members)).toList.length ≤ fuel →
    readMembers fuel depth ((prettyMembers indent ((key, value) :: members)).toList ++
      ((newline outer).toList ++ '\x7d' :: rest)) =
        some (sortedMembers ((key, value) :: members), rest)

namespace ReadsBack

theorem zero : ReadsBack 0 where
  value v indent depth rest ok enough := by
    obtain ⟨c, cs, text, -⟩ := exists_cons_pretty ok indent
    simp [text] at enough
  items item items indent outer depth rest ok enough := by
    have indented := length_newline_pos indent
    rw [toList_prettyItems, List.length_append] at enough
    omega
  members key value members indent outer depth rest ok enough := by
    have indented := length_newline_pos indent
    rw [toList_prettyMembers, List.length_append] at enough
    omega

variable {fuel : Nat} (shorter : ReadsBack fuel)
include shorter

theorem value_succ (v : Json) (indent depth : Nat) (rest : List Char)
    (ok : v.readable depth = true) (enough : (pretty indent v).toList.length ≤ fuel + 1)
    (ends : EndsValue rest) :
    readValue (fuel + 1) depth ((pretty indent v).toList ++ rest) = some (v.sorted, rest) := by
  cases v with
  | null => simp [pretty, readValue, skipBlanks, isBlank, sorted]
  | bool b => cases b <;> simp [pretty, readValue, skipBlanks, isBlank, sorted]
  | number n =>
    obtain ⟨k, word, rfl, text⟩ := pretty_number ok
    rw [text, readValue_repr word ends]
    rfl
  | string s =>
    have read := readChars_escaped s.toList rest
    rw [pretty, toList_quote, List.cons_append, List.append_assoc, List.singleton_append]
    simp [readValue, skipBlanks, isBlank, sorted, read]
  | array items =>
    obtain _ | depth := depth
    · simp [readable] at ok
    cases items with
    | nil => simp [pretty, readValue, skipBlanks, isBlank, sorted, sortedItems]
    | cons item items =>
      rw [toList_pretty_array, List.length_cons, List.length_append] at enough
      obtain ⟨c, cs, text, visible, opens⟩ :=
        exists_cons_pretty (Bool.and_eq_true_iff.mp ok).1 (indent + 1)
      have read := shorter.items item items (indent + 1) indent depth rest ok (by omega)
      rw [toList_pretty_array, sorted]
      simp only [toList_prettyItems, text, List.append_assoc, List.cons_append,
        List.nil_append] at read ⊢
      exact readValue_array (blank_newline (indent + 1)) visible opens read
  | object members =>
    obtain _ | depth := depth
    · simp [readable] at ok
    cases members with
    | nil => simp [pretty, readValue, skipBlanks, isBlank, sorted, sortedMembers]
    | cons member members =>
      obtain ⟨key, value⟩ := member
      rw [toList_pretty_object, List.length_cons, List.length_append] at enough
      have read := shorter.members key value members (indent + 1) indent depth rest ok (by omega)
      rw [toList_pretty_object, sorted]
      simp only [toList_prettyMembers, toList_quote, List.append_assoc, List.cons_append,
        List.nil_append] at read ⊢
      exact readValue_object (blank_newline (indent + 1)) rfl (by decide) read

theorem items_succ (item : Json) (items : List Json) (indent outer depth : Nat) (rest : List Char)
    (ok : readableItems (item :: items) depth = true)
    (enough : (prettyItems indent (item :: items)).toList.length ≤ fuel + 1) :
    readItems (fuel + 1) depth ((prettyItems indent (item :: items)).toList ++
      ((newline outer).toList ++ ']' :: rest)) = some (sortedItems (item :: items), rest) := by
  have indented := length_newline_pos indent
  rw [toList_prettyItems, List.length_append, List.length_append] at enough
  obtain ⟨here, later⟩ := Bool.and_eq_true_iff.mp ok
  rw [toList_prettyItems, List.append_assoc, List.append_assoc,
    readItems_append (blank_newline indent)]
  cases items with
  | nil =>
    have read := shorter.value item indent depth _ here (by omega)
      (endsValue_newline outer (']' :: rest))
    exact readItems_last read (skipBlanks_newline outer rfl rest)
  | cons next more =>
    rw [laterItems, List.length_cons] at enough
    rw [sortedItems]
    refine readItems_more ?_ (shorter.items next more indent outer depth rest later (by omega))
    exact shorter.value item indent depth _ here (by omega) (endsValue_comma _)

theorem members_succ (key : String) (value : Json) (members : List (String × Json))
    (indent outer depth : Nat) (rest : List Char)
    (ok : readableMembers ((key, value) :: members) depth = true)
    (enough : (prettyMembers indent ((key, value) :: members)).toList.length ≤ fuel + 1) :
    readMembers (fuel + 1) depth ((prettyMembers indent ((key, value) :: members)).toList ++
      ((newline outer).toList ++ '\x7d' :: rest)) =
        some (sortedMembers ((key, value) :: members), rest) := by
  have indented := length_newline_pos indent
  simp only [toList_prettyMembers, List.length_append, List.length_cons] at enough
  obtain ⟨here, later⟩ := Bool.and_eq_true_iff.mp ok
  rw [toList_prettyMembers, List.append_assoc, readMembers_append (blank_newline indent),
    List.append_assoc, List.cons_append, List.cons_append, List.append_assoc]
  cases members with
  | nil =>
    have read := shorter.value value indent depth _ here (by omega)
      (endsValue_newline outer ('\x7d' :: rest))
    rw [← readValue_space] at read
    exact readMembers_last key read (skipBlanks_newline outer rfl rest)
  | cons next more =>
    rw [laterMembers, List.length_cons] at enough
    obtain ⟨name, other⟩ := next
    rw [sortedMembers]
    refine readMembers_more key ?_
      (shorter.members name other more indent outer depth rest later (by omega))
    rw [readValue_space]
    exact shorter.value value indent depth _ here (by omega) (endsValue_comma _)

end ReadsBack

theorem readsBack (fuel : Nat) : ReadsBack fuel := by
  induction fuel with
  | zero => exact .zero
  | succ fuel shorter => exact ⟨shorter.value_succ, shorter.items_succ, shorter.members_succ⟩

/-- What is printed on a line of its own reads back, its members in the order of their keys. -/
theorem parse_pretty {v : Json} (ok : v.readable maxDepth = true) :
    parse (v.pretty 0 ++ "\n") = some v.sorted := by
  have line : ("\n" : String).toList = ['\n'] := by decide
  have read := (readsBack (2 * (v.pretty 0 ++ "\n").toList.length + 2)).value v 0 maxDepth ['\n'] ok
    (by rw [String.toList_append, List.length_append]; omega) (by simp [EndsValue])
  rw [← line, ← String.toList_append] at read
  rw [parse, read, line]
  rfl

/-! ### Candidates -/

def valueAt? : Json → String → Option Json
  | object members, key => member? members key
  | _, _ => none

def asNat? : Json → Option Nat
  | number (.integer n) => n.toNat?
  | _ => none

def asBool? : Json → Option Bool
  | bool b => some b
  | _ => none

def asText? : Json → Option String
  | string s => some s
  | _ => none

/-- A null stands for no text. -/
def asTextOrNull? : Json → Option (Option String)
  | null => some none
  | other => other.asText?.map some

end Json

def Span.ofJson? (json : Json) : Option Span := do
  let start ← (← json.valueAt? "start").asNat?
  let stop ← (← json.valueAt? "end").asNat?
  return ⟨start, stop⟩

def Candidate.ofJson? (json : Json) : Option Candidate := do
  let label ← (← json.valueAt? "label").asText?
  let documentation ← (← json.valueAt? "documentation").asTextOrNull?
  let deprecated ← (← json.valueAt? "deprecated").asBool?
  let replaceRange ← Span.ofJson? (← json.valueAt? "replaceRange")
  return ⟨label, documentation, deprecated, replaceRange⟩

def Candidate.listOf? (text : String) : Option (List Candidate) :=
  match Json.parse text with
  | some (.array items) => items.mapM Candidate.ofJson?
  | _ => none

theorem Span.ofJson?_sorted (span : Span) : ofJson? span.toJson.sorted = some span := rfl

theorem Candidate.ofJson?_sorted (candidate : Candidate) :
    ofJson? candidate.toJson.sorted = some candidate := by
  obtain ⟨label, documentation, deprecated, replaceRange⟩ := candidate
  cases documentation <;> rfl

/-- The offsets of the span are words. -/
def Span.IsWords (span : Span) : Prop := span.start ≤ Json.maxWord ∧ span.stop ≤ Json.maxWord

theorem Candidate.readable_toJson {candidate : Candidate} (words : candidate.replaceRange.IsWords)
    (depth : Nat) : candidate.toJson.readable (depth + 2) = true := by
  obtain ⟨start, stop⟩ := words
  cases documentation : candidate.documentation <;>
    simp [toJson, Span.toJson, Json.ofNat, Json.ofOption, documentation, Json.readable,
      Json.readableMembers, start, stop]

/-- A printed list of candidates lists these candidates. -/
theorem Candidate.listOf?_pretty {candidates : List Candidate}
    (words : ∀ candidate ∈ candidates, candidate.replaceRange.IsWords) :
    listOf? ((Json.array (candidates.map toJson)).pretty 0 ++ "\n") = some candidates := by
  have ok : (Json.array (candidates.map toJson)).readable Json.maxDepth = true := by
    rw [Json.maxDepth, Json.readable]
    induction candidates with
    | nil => rfl
    | cons candidate rest ih =>
      obtain ⟨here, later⟩ := List.forall_mem_cons.mp words
      rw [List.map_cons, Json.readableItems, readable_toJson here, ih later]
      rfl
  rw [listOf?, Json.parse_pretty ok]
  clear ok words
  simp only [Json.sorted]
  induction candidates with
  | nil => rfl
  | cons candidate rest ih =>
    rw [List.map_cons, Json.sortedItems, List.mapM_cons, ofJson?_sorted, ih]
    rfl

end EndpointUri
