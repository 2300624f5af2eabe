import EndpointUri.Proofs.Tiling

/-!
Parsing by offsets: a scanner that slices the text, looks for marks and adds to its offsets. A slice
may end inside a character or past the text, and a sum may pass the last offset; there is no result
then. On a text whose end is not the last offset this never happens, and the scanner finds what
`Uri.parse` finds.
-/
namespace EndpointUri
namespace Checked

open Text (Stands byteLength)

/-! ### The scanner -/

def add? (a b : Nat) : Option Nat := if a + b < Text.offsetLimit then some (a + b) else none

def rest? (offset : Nat) (text : String) : Option String :=
  Span.slice? ⟨offset, byteLength text.toList⟩ text

def find? (mark : Char) (text : String) : Option Nat :=
  (splitFirst mark text.toList).map fun (front, _) => byteLength front

/-- Every segment, the last one too, advances the cursor by its length and one separator. -/
def placeSegments? (cursor index : Nat) : List (List Char) → Option (List PathParam)
  | [] => some []
  | segment :: rest => do
    let stop ← add? cursor (byteLength segment)
    let width ← add? (byteLength segment) 1
    let next ← add? cursor width
    let params ← placeSegments? next (index + 1) rest
    return ⟨⟨String.ofList segment, ⟨cursor, stop⟩⟩, index⟩ :: params

def splitPath? (text : String) (start stop : Nat) : Option (List PathParam) := do
  let region ← Span.slice? ⟨start, stop⟩ text
  placeSegments? start 0 (readPath region.toList).items

def bare (text : String) : SchemePath :=
  let span : Span := ⟨0, byteLength text.toList⟩
  ⟨span, ⟨text, span⟩, []⟩

/-- Where the path ends: at the first question mark after the colon, or with the text. -/
def pathStop? (text : String) (colon : Nat) : Option Nat := do
  let body ← rest? colon text
  match find? '?' body with
  | some length => add? colon length
  | none => return byteLength text.toList

/-- Scheme and path when the scheme ends at a colon. -/
def region? (text : String) (colon : Nat) : Option SchemePath := do
  let name ← Span.slice? ⟨0, colon⟩ text
  let stop ← pathStop? text colon
  let start ← add? colon 1
  let params ← splitPath? text start stop
  return ⟨⟨0, stop⟩, ⟨name, ⟨0, colon⟩⟩, params⟩

def build? (text : String) : Option SchemePath :=
  match find? ':' text with
  | some colon => if 0 < colon then region? text colon else some (bare text)
  | none => some (bare text)

def separatorAt? (offset : Nat) (text : String) : Option (Option Nat) := do
  let rest ← rest? offset text
  let separator := [QuerySeparator.escaped, .plain].find? (·.chars.isPrefixOf rest.toList)
  return separator.map fun separator => byteLength separator.chars

def queryParam? (text : String) (start stop : Nat) : Option QueryParam := do
  let entry ← Span.slice? ⟨start, stop⟩ text
  match find? '=' entry with
  | some equals => do
    let key ← Span.slice? ⟨0, equals⟩ entry
    let keyStop ← add? start equals
    let afterMark ← add? equals 1
    let value ← rest? afterMark entry
    let valueStart ← add? keyStop 1
    return ⟨⟨key, ⟨start, keyStop⟩⟩, some ⟨value, ⟨valueStart, stop⟩⟩, ⟨start, stop⟩⟩
  | none => return ⟨⟨entry, ⟨start, stop⟩⟩, none, ⟨start, stop⟩⟩

/-- Scans for separators from the cursor on, in at most as many rounds as are given. -/
def scanQuery? (text : String) : (rounds entryStart cursor : Nat) → Option (List QueryParam)
  | 0, _, _ => none
  | rounds + 1, entryStart, cursor =>
    if cursor < byteLength text.toList then do
      match ← separatorAt? cursor text with
      | some width =>
        let param ← queryParam? text entryStart cursor
        let next ← add? cursor width
        let params ← scanQuery? text rounds next next
        return param :: params
      | none =>
        let rest ← rest? cursor text
        let next ← add? cursor ((rest.toList.head?.map Char.utf8Size).getD 1)
        scanQuery? text rounds entryStart next
    else do
      let param ← queryParam? text entryStart (byteLength text.toList)
      return [param]

/-- A path that ends before the text ends at a question mark. A round for each byte is enough. -/
def queryParams? (text : String) (stop : Nat) : Option (List QueryParam) :=
  if stop < byteLength text.toList then do
    let start ← add? stop 1
    scanQuery? text (byteLength text.toList + 1) start start
  else some []

def parse? (text : String) : Option Uri := do
  let region ← build? text
  let query ← queryParams? text region.span.stop
  return ⟨text, region, query⟩

/-! ### Sums, slices and marks -/

variable {text : String} {front back : List Char}

theorem add?_eq {a b : Nat} (bound : a + b < Text.offsetLimit) : add? a b = some (a + b) :=
  if_pos bound

theorem slice?_eq {start stop : Nat} {cs : List Char} (stands : Stands text start cs)
    (size : start + byteLength cs = stop) :
    Span.slice? ⟨start, stop⟩ text = some (String.ofList cs) :=
  size ▸ Span.slice?_of_stands stands

theorem stands_of_split (split : text.toList = front ++ back) :
    Stands text (byteLength front) back :=
  ⟨front, [], by simp [split], rfl⟩

theorem rest?_eq (split : text.toList = front ++ back) :
    rest? (byteLength front) text = some (String.ofList back) := by
  apply slice?_eq (stands_of_split split)
  rw [split, Text.byteLength_append]

theorem find?_eq_some {mark : Char} (split : text.toList = front ++ mark :: back)
    (free : mark ∉ front) : find? mark text = some (byteLength front) := by
  rw [find?, split, splitFirst_append free]
  rfl

theorem find?_eq_none {mark : Char} (free : mark ∉ text.toList) : find? mark text = none := by
  rw [find?, splitFirst_eq_none_iff.mpr free]
  rfl

/-! ### Scheme and path -/

theorem byteLength_renderPath (segment : List Char) (separator : PathSeparator)
    (next : List Char) (rest : List (PathSeparator × List Char)) :
    byteLength (Layout.renderPath ⟨segment, (separator, next) :: rest⟩) =
      byteLength segment + 1 + byteLength (Layout.renderPath ⟨next, rest⟩) := by
  unfold Layout.renderPath
  rw [Separated.render_cons, Text.byteLength_append, Text.byteLength_append,
    byteLength_pathSeparator, Nat.add_assoc]
  rfl

theorem placeSegments?_cons {cursor : Nat} (index : Nat) {segment : List Char}
    (rest : List (List Char)) (bound : cursor + byteLength segment + 1 < Text.offsetLimit) :
    placeSegments? cursor index (segment :: rest) =
      (placeSegments? (cursor + byteLength segment + 1) (index + 1) rest).map
        (PathParam.place cursor index segment :: ·) := by
  have stop := add?_eq (by omega : cursor + byteLength segment < Text.offsetLimit)
  have width := add?_eq (by omega : byteLength segment + 1 < Text.offsetLimit)
  have next := add?_eq (by omega : cursor + (byteLength segment + 1) < Text.offsetLimit)
  simp only [placeSegments?, stop, width, next, Option.bind_eq_bind, Option.bind_some,
    ← Nat.add_assoc]
  cases placeSegments? (cursor + byteLength segment + 1) (index + 1) rest <;> rfl

theorem placeSegments?_eq {cursor : Nat} (index : Nat) {segment : List Char}
    {tail : List (PathSeparator × List Char)}
    (bound : cursor + byteLength (Layout.renderPath ⟨segment, tail⟩) + 1 < Text.offsetLimit) :
    placeSegments? cursor index (Separated.items ⟨segment, tail⟩) =
      some (placePath cursor index segment tail) := by
  induction tail generalizing cursor index segment with
  | nil =>
    have size : byteLength (Layout.renderPath ⟨segment, []⟩) = byteLength segment := by
      simp [Layout.renderPath, Separated.render]
    exact placeSegments?_cons index [] (by omega : cursor + byteLength segment + 1 < _)
  | cons pair rest ih =>
    obtain ⟨separator, next⟩ := pair
    rw [byteLength_renderPath] at bound
    have later : placeSegments? (cursor + byteLength segment + 1) (index + 1)
        (Separated.items ⟨next, rest⟩) =
          some (placePath (cursor + byteLength segment + 1) (index + 1) next rest) :=
      ih (index + 1) (by omega)
    have first := placeSegments?_cons index (Separated.items ⟨next, rest⟩)
      (by omega : cursor + byteLength segment + 1 < Text.offsetLimit)
    rw [later] at first
    exact first

theorem splitPath?_eq {start stop : Nat} {region : List Char} (stands : Stands text start region)
    (size : start + byteLength region = stop) (bound : stop + 1 < Text.offsetLimit) :
    splitPath? text start stop =
      some (placePath start 0 (readPath region).head (readPath region).tail) := by
  rw [splitPath?, slice?_eq stands size, Option.bind_eq_bind, Option.bind_some,
    String.toList_ofList]
  apply placeSegments?_eq
  rw [render_readPath]
  omega

/-- The three forms of a text: no scheme, a scheme with a path, and these with a query. -/
inductive Form (text : String) : Prop
  | bare (unmarked : find? ':' text = none ∨ find? ':' text = some 0)
      (read : Layout.read text.toList = .bare text.toList)
  | path {scheme path : List Char} (split : text.toList = scheme ++ ':' :: path)
      (nonempty : scheme ≠ []) (free : ':' ∉ scheme) (unmarked : '?' ∉ path)
      (read : Layout.read text.toList = .full scheme (readPath path) none)
  | query {scheme path query : List Char}
      (split : text.toList = scheme ++ ':' :: (path ++ '?' :: query))
      (nonempty : scheme ≠ []) (free : ':' ∉ scheme) (unmarked : '?' ∉ path)
      (read : Layout.read text.toList =
        .full scheme (readPath path) (some ((readQuery query).map Entry.read)))

theorem form (text : String) : Form text := by
  cases marked : splitFirst ':' text.toList with
  | none =>
    refine .bare (Or.inl ?_) ?_
    · rw [find?, marked]
      rfl
    · rw [Layout.read, marked]
  | some parts =>
    obtain ⟨scheme, body⟩ := parts
    obtain ⟨split, free⟩ := splitFirst_eq_some marked
    cases scheme with
    | nil =>
      refine .bare (Or.inr ?_) ?_
      · rw [find?, marked]
        rfl
      · rw [Layout.read, marked]
    | cons c scheme =>
      have read := Layout.read_scheme (List.cons_ne_nil c scheme) free body
      rw [← split, Layout.readBody] at read
      cases questioned : splitFirst '?' body with
      | none =>
        rw [questioned] at read
        exact .path split (List.cons_ne_nil c scheme) free
          (splitFirst_eq_none_iff.mp questioned) read
      | some parts =>
        obtain ⟨path, query⟩ := parts
        obtain ⟨rfl, unmarked⟩ := splitFirst_eq_some questioned
        rw [questioned] at read
        exact .query split (List.cons_ne_nil c scheme) free unmarked read

theorem byteLength_pos {cs : List Char} (nonempty : cs ≠ []) : 0 < byteLength cs := by
  obtain ⟨c, rest, rfl⟩ := List.exists_cons_of_ne_nil nonempty
  exact Nat.lt_of_lt_of_le c.utf8Size_pos (Nat.le_add_right _ _)

theorem pathStop?_path {scheme path : List Char} (split : text.toList = scheme ++ ':' :: path)
    (unmarked : '?' ∉ path) :
    pathStop? text (byteLength scheme) = some (byteLength scheme + 1 + byteLength path) := by
  have colon : ':'.utf8Size = 1 := rfl
  have free : '?' ∉ (String.ofList (':' :: path)).toList := by simpa using unmarked
  simp only [pathStop?, rest?_eq split, find?_eq_none free, Option.bind_eq_bind, Option.bind_some]
  rw [split, Text.byteLength_append, Text.byteLength_cons, colon, Nat.add_assoc]
  rfl

theorem pathStop?_query {scheme path query : List Char}
    (split : text.toList = scheme ++ ':' :: (path ++ '?' :: query)) (unmarked : '?' ∉ path)
    (bound : byteLength text.toList < Text.offsetLimit) :
    pathStop? text (byteLength scheme) = some (byteLength scheme + 1 + byteLength path) := by
  have colon : ':'.utf8Size = 1 := rfl
  have free : '?' ∉ ':' :: path := by simpa using unmarked
  have marked : (String.ofList (':' :: (path ++ '?' :: query))).toList =
      (':' :: path) ++ '?' :: query := by simp
  have size : byteLength scheme + byteLength (':' :: path) < Text.offsetLimit := by
    rw [split] at bound
    simp only [Text.byteLength_append, Text.byteLength_cons] at bound ⊢
    omega
  simp only [pathStop?, rest?_eq split, find?_eq_some marked free, add?_eq size,
    Option.bind_eq_bind, Option.bind_some]
  rw [Text.byteLength_cons, colon, Nat.add_assoc]

theorem region?_eq {scheme path after : List Char}
    (split : text.toList = scheme ++ ':' :: (path ++ after))
    (ends : pathStop? text (byteLength scheme) = some (byteLength scheme + 1 + byteLength path))
    (bound : byteLength text.toList < Text.maxOffset) :
    region? text (byteLength scheme) =
      some ⟨⟨0, byteLength scheme + 1 + byteLength path⟩, Token.place 0 scheme,
        placePath (byteLength scheme + 1) 0 (readPath path).head (readPath path).tail⟩ := by
  have colon : ':'.utf8Size = 1 := rfl
  have last : Text.maxOffset + 1 = Text.offsetLimit := rfl
  have size : byteLength text.toList =
      byteLength scheme + (1 + (byteLength path + byteLength after)) := by
    rw [split, Text.byteLength_append, Text.byteLength_cons, colon, Text.byteLength_append]
  have name : Span.slice? ⟨0, byteLength scheme⟩ text = some (String.ofList scheme) :=
    slice?_eq ⟨[], ':' :: (path ++ after), by simp [split], rfl⟩ (Nat.zero_add _)
  have start := add?_eq (by omega : byteLength scheme + 1 < Text.offsetLimit)
  have stands : Stands text (byteLength scheme + 1) path :=
    ⟨scheme ++ [':'], after, by simp [split], by simp [colon]⟩
  have params := splitPath?_eq stands rfl (by omega)
  simp only [region?, name, ends, start, params, Option.bind_eq_bind, Option.bind_some]
  simp [Token.place]

theorem build?_eq (bound : byteLength text.toList < Text.maxOffset) :
    build? text = some (SchemePath.ofText text) := by
  have within : byteLength text.toList < Text.offsetLimit :=
    Nat.lt_of_lt_of_le bound (Nat.sub_le _ _)
  unfold SchemePath.ofText
  cases form text with
  | bare unmarked read =>
    have whole : (Layout.read text.toList).schemePath = bare text := by
      simp [read, Layout.schemePath, Layout.pathEnd, bare, Token.place]
    rw [whole, build?]
    rcases unmarked with missing | leading
    · rw [missing]
    · rw [leading]
      rfl
  | @path scheme path split nonempty free unmarked read =>
    have padded : text.toList = scheme ++ ':' :: (path ++ []) := by rw [split, List.append_nil]
    have found := region?_eq padded (pathStop?_path split unmarked) bound
    rw [build?, find?_eq_some split free]
    simp only [byteLength_pos nonempty, if_true, found, read]
    simp only [Layout.schemePath, Layout.pathEnd, render_readPath]
  | query split nonempty free unmarked read =>
    have found := region?_eq split (pathStop?_query split unmarked within) bound
    rw [build?, find?_eq_some split free]
    simp only [byteLength_pos nonempty, if_true, found, read]
    simp only [Layout.schemePath, Layout.pathEnd, render_readPath]

/-! ### The query -/

theorem queryParam?_marked {start stop : Nat} {key value : List Char}
    (stands : Stands text start (key ++ '=' :: value)) (free : '=' ∉ key)
    (size : start + byteLength (key ++ '=' :: value) = stop) (bound : stop < Text.offsetLimit) :
    queryParam? text start stop = some (QueryParam.place start ⟨key, some value⟩) := by
  have equals : '='.utf8Size = 1 := rfl
  have width : byteLength (key ++ '=' :: value) = byteLength key + (1 + byteLength value) := by
    rw [Text.byteLength_append, Text.byteLength_cons, equals]
  have whole : (String.ofList (key ++ '=' :: value)).toList = key ++ '=' :: value :=
    String.toList_ofList
  have apart : (String.ofList (key ++ '=' :: value)).toList = (key ++ ['=']) ++ value := by simp
  have keySlice : Span.slice? ⟨0, byteLength key⟩ (String.ofList (key ++ '=' :: value)) =
      some (String.ofList key) :=
    slice?_eq ⟨[], '=' :: value, by simp, rfl⟩ (Nat.zero_add _)
  have valueSlice := rest?_eq apart
  rw [Text.byteLength_append, Text.byteLength_cons, equals, Text.byteLength_nil] at valueSlice
  have keyStop := add?_eq (by omega : start + byteLength key < Text.offsetLimit)
  have afterMark := add?_eq (by omega : byteLength key + 1 < Text.offsetLimit)
  have valueStart := add?_eq (by omega : start + byteLength key + 1 < Text.offsetLimit)
  simp only [queryParam?, slice?_eq stands size, find?_eq_some whole free, keySlice, keyStop,
    afterMark, valueSlice, valueStart, Option.bind_eq_bind, Option.bind_some]
  simp [QueryParam.place, Token.place, Entry.render, equals, ← size, Nat.add_assoc]

theorem queryParam?_unmarked {start stop : Nat} {cs : List Char} (stands : Stands text start cs)
    (free : '=' ∉ cs) (size : start + byteLength cs = stop) :
    queryParam? text start stop = some (QueryParam.place start ⟨cs, none⟩) := by
  have unmarked : '=' ∉ (String.ofList cs).toList := by rwa [String.toList_ofList]
  simp only [queryParam?, slice?_eq stands size, find?_eq_none unmarked, Option.bind_eq_bind,
    Option.bind_some]
  simp [QueryParam.place, Token.place, Entry.render, ← size]

theorem queryParam?_eq {start stop : Nat} {cs : List Char} (stands : Stands text start cs)
    (size : start + byteLength cs = stop) (bound : stop < Text.offsetLimit) :
    queryParam? text start stop = some (QueryParam.place start (Entry.read cs)) := by
  cases split : splitFirst '=' cs with
  | none =>
    rw [Entry.read, split]
    exact queryParam?_unmarked stands (splitFirst_eq_none_iff.mp split) size
  | some parts =>
    obtain ⟨key, value⟩ := parts
    rw [Entry.read, split]
    obtain ⟨rfl, free⟩ := splitFirst_eq_some split
    exact queryParam?_marked stands free size bound

theorem separatorAt?_escaped
    (split : text.toList = front ++ (QuerySeparator.escaped.chars ++ back)) :
    separatorAt? (byteLength front) text =
      some (some (byteLength QuerySeparator.escaped.chars)) := by
  simp [separatorAt?, rest?_eq split]

theorem separatorAt?_plain (split : text.toList = front ++ '&' :: back)
    (unescaped : ¬ escapeTail <+: back) :
    separatorAt? (byteLength front) text = some (some (byteLength QuerySeparator.plain.chars)) := by
  have longer : QuerySeparator.escaped.chars.isPrefixOf ('&' :: back) = false := by
    rw [Bool.eq_false_iff, Ne, List.isPrefixOf_iff_prefix]
    exact fun begins => unescaped (List.cons_prefix_cons.mp begins).2
  have shorter : QuerySeparator.plain.chars.isPrefixOf ('&' :: back) = true := by
    simp [QuerySeparator.chars]
  simp only [separatorAt?, rest?_eq split, Option.bind_eq_bind, Option.bind_some,
    String.toList_ofList, List.find?, longer, shorter]
  rfl

theorem separatorAt?_other {c : Char} (split : text.toList = front ++ c :: back) (other : c ≠ '&') :
    separatorAt? (byteLength front) text = some none := by
  simp [separatorAt?, rest?_eq split, QuerySeparator.chars, other.symm]

variable {entry : List Char} {rounds : Nat}

/-- A round that finds a separator ends the entry and begins the next one after it. -/
theorem scanQuery?_separator {separator : QuerySeparator} {params : List QueryParam}
    (split : text.toList = front ++ entry ++ (separator.chars ++ back))
    (found : separatorAt? (byteLength (front ++ entry)) text =
      some (some (byteLength separator.chars)))
    (later : scanQuery? text rounds (byteLength (front ++ entry ++ separator.chars))
      (byteLength (front ++ entry ++ separator.chars)) = some params)
    (bound : byteLength text.toList < Text.offsetLimit) :
    scanQuery? text (rounds + 1) (byteLength front) (byteLength (front ++ entry)) =
      some (QueryParam.place (byteLength front) (Entry.read entry) :: params) := by
  have size : byteLength text.toList = byteLength (front ++ entry) +
      (byteLength separator.chars + byteLength back) := by
    rw [split, Text.byteLength_append (front ++ entry), Text.byteLength_append separator.chars]
  have positive : 0 < byteLength separator.chars := by
    cases separator <;> decide
  have stands : Stands text (byteLength front) entry :=
    ⟨front, separator.chars ++ back, split, rfl⟩
  have param := queryParam?_eq stands (Text.byteLength_append front entry).symm (by omega)
  have next : add? (byteLength (front ++ entry)) (byteLength separator.chars) =
      some (byteLength (front ++ entry ++ separator.chars)) := by
    rw [add?_eq (by omega), ← Text.byteLength_append]
  rw [scanQuery?, if_pos (by omega)]
  simp only [found, param, next, later, Option.bind_eq_bind, Option.bind_some]
  rfl

/-- Any other round takes one more character into the entry. -/
theorem scanQuery?_other {c : Char} (split : text.toList = front ++ entry ++ c :: back)
    (other : c ≠ '&') (bound : byteLength text.toList < Text.offsetLimit) :
    scanQuery? text (rounds + 1) (byteLength front) (byteLength (front ++ entry)) =
      scanQuery? text rounds (byteLength front) (byteLength (front ++ (entry ++ [c]))) := by
  have size : byteLength text.toList =
      byteLength (front ++ entry) + (c.utf8Size + byteLength back) := by
    rw [split, Text.byteLength_append, Text.byteLength_cons]
  have positive := c.utf8Size_pos
  have next := add?_eq (by omega : byteLength (front ++ entry) + c.utf8Size < Text.offsetLimit)
  have longer : byteLength (front ++ (entry ++ [c])) =
      byteLength (front ++ entry) + c.utf8Size := by
    simp [Nat.add_assoc]
  rw [scanQuery?, if_pos (by omega)]
  simp only [separatorAt?_other split other, rest?_eq split, String.toList_ofList, List.head?_cons,
    Option.map_some, Option.getD_some, next, longer, Option.bind_eq_bind, Option.bind_some]

theorem placeQuery_push (entry : List Char) (separator : QuerySeparator)
    (run : Separated QuerySeparator (List Char)) :
    placeQuery (byteLength front) (Entry.read (entry ++ (run.push separator).head))
        ((run.push separator).map Entry.read).tail =
      QueryParam.place (byteLength front) (Entry.read entry) ::
        placeQuery (byteLength (front ++ entry ++ separator.chars)) (Entry.read run.head)
          (run.map Entry.read).tail := by
  simp [Separated.push, Separated.map, placeQuery, Entry.render_read, Nat.add_assoc]

/-- The scan from inside an entry of which some characters are already read. -/
theorem scanQuery?_eq {rest : List Char} (split : text.toList = front ++ entry ++ rest)
    (enough : byteLength rest < rounds) (bound : byteLength text.toList < Text.offsetLimit) :
    scanQuery? text rounds (byteLength front) (byteLength (front ++ entry)) =
      some (placeQuery (byteLength front) (Entry.read (entry ++ (readQuery rest).head))
        ((readQuery rest).map Entry.read).tail) := by
  -- The rounds left exceed the bytes left, since every round takes at least one byte.
  fun_induction readQuery rest generalizing front entry rounds with
  | case1 =>
    obtain ⟨more, rfl⟩ : ∃ more, rounds = more + 1 := ⟨rounds - 1, by omega⟩
    rw [List.append_nil] at split
    have whole : byteLength text.toList = byteLength (front ++ entry) := by rw [split]
    have stands : Stands text (byteLength front) entry := ⟨front, [], by simp [split], rfl⟩
    have param := queryParam?_eq stands (Text.byteLength_append front entry).symm (by omega)
    rw [scanQuery?, if_neg (by omega), whole, param]
    simp [Separated.map, placeQuery]
  | case2 cs ih =>
    obtain ⟨more, rfl⟩ : ∃ more, rounds = more + 1 := ⟨rounds - 1, by omega⟩
    have positive := Char.utf8Size_pos '&'
    have apart : text.toList = front ++ entry ++ QuerySeparator.escaped.chars ++ [] ++ cs := by
      simp [split, QuerySeparator.chars]
    simp only [Text.byteLength_cons] at enough
    have later := ih apart (by omega : byteLength cs < more)
    rw [List.append_nil, List.nil_append] at later
    rw [placeQuery_push]
    exact scanQuery?_separator split (separatorAt?_escaped split) later bound
  | case3 cs unescaped ih =>
    obtain ⟨more, rfl⟩ : ∃ more, rounds = more + 1 := ⟨rounds - 1, by omega⟩
    have positive := Char.utf8Size_pos '&'
    have apart : text.toList = front ++ entry ++ QuerySeparator.plain.chars ++ [] ++ cs := by
      simp [split, QuerySeparator.chars]
    have single : ¬ escapeTail <+: cs := by
      rintro ⟨after, rfl⟩
      exact unescaped after rfl rfl
    rw [Text.byteLength_cons] at enough
    have later := ih apart (by omega : byteLength cs < more)
    rw [List.append_nil, List.nil_append] at later
    rw [placeQuery_push]
    exact scanQuery?_separator split (separatorAt?_plain split single) later bound
  | case4 c cs unescaped other ih =>
    obtain ⟨more, rfl⟩ : ∃ more, rounds = more + 1 := ⟨rounds - 1, by omega⟩
    have positive := c.utf8Size_pos
    have apart : text.toList = front ++ (entry ++ [c]) ++ cs := by simp [split]
    rw [Text.byteLength_cons] at enough
    have later := ih apart (by omega : byteLength cs < more)
    rw [scanQuery?_other split other bound, later, List.append_assoc]
    rfl

theorem queryParams?_eq (bound : byteLength text.toList < Text.offsetLimit) :
    queryParams? text (Layout.read text.toList).pathEnd =
      some (Layout.read text.toList).queryParams := by
  cases form text with
  | bare unmarked read =>
    rw [read, queryParams?, Layout.pathEnd, if_neg (Nat.lt_irrefl _)]
    rfl
  | path split nonempty free unmarked read =>
    have whole := Layout.size_without_query read
    rw [← Text.byteLength_toList] at whole
    rw [read, queryParams?, whole, if_neg (Nat.lt_irrefl _)]
    rfl
  | @query scheme path query split nonempty free unmarked read =>
    have colon : ':'.utf8Size = 1 := rfl
    have question : '?'.utf8Size = 1 := rfl
    have apart : text.toList = (scheme ++ ':' :: (path ++ ['?'])) ++ [] ++ query := by simp [split]
    have start : byteLength (scheme ++ ':' :: (path ++ ['?'])) =
        byteLength scheme + 1 + byteLength path + 1 := by
      simp [colon, question, Nat.add_assoc]
    have size : byteLength text.toList =
        byteLength scheme + 1 + byteLength path + 1 + byteLength query := by
      rw [apart, List.append_nil, Text.byteLength_append, start]
    have scanned :=
      scanQuery?_eq apart (by omega : byteLength query < byteLength text.toList + 1) bound
    rw [List.append_nil, List.nil_append, start] at scanned
    rw [read, Layout.pathEnd, render_readPath, queryParams?, if_pos (by omega), add?_eq (by omega)]
    refine scanned.trans ?_
    simp only [Layout.queryParams, Layout.pathEnd, render_readPath]
    rfl

/-- The scanner finds every part of a text where parsing finds it. -/
theorem parse?_eq (bound : byteLength text.toList < Text.maxOffset) :
    parse? text = some (Uri.parse text) := by
  have stop : (SchemePath.ofText text).span.stop = (Layout.read text.toList).pathEnd := by
    unfold SchemePath.ofText
    cases Layout.read text.toList <;> rfl
  have query := queryParams?_eq (Nat.lt_of_lt_of_le bound (Nat.sub_le _ _))
  simp only [parse?, build?_eq bound, stop, query, Option.bind_eq_bind, Option.bind_some]
  rfl

end Checked
end EndpointUri
