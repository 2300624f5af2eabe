import EndpointUri.Uri.Node

/-!
Reading and writing a layout undo each other. Every text is written back as it was; and a layout
is read back as it was exactly when its pieces hold no mark that would divide them again.
-/
namespace EndpointUri

namespace Separated

variable {σ α β : Type} {separator : σ → List Char} {item : α → List Char}

@[simp] theorem render_push (s : σ) (run : Separated σ (List Char)) :
    (run.push s).render separator id = separator s ++ run.render separator id := by
  simp [push, render]

@[simp] theorem render_extend (c : Char) (run : Separated σ (List Char)) :
    (run.extend c).render separator id = c :: run.render separator id := rfl

theorem render_cons (head : α) (s : σ) (next : α) (rest : List (σ × α)) :
    render separator item ⟨head, (s, next) :: rest⟩ =
      item head ++ (separator s ++ render separator item ⟨next, rest⟩) := by
  simp [render]

theorem render_map (f : β → α) (run : Separated σ β) :
    (run.map f).render separator item = run.render separator (item ∘ f) := by
  simp [map, render, List.flatMap_map]

@[simp] theorem items_push (s : σ) (run : Separated σ (List α)) :
    (run.push s).items = [] :: run.items := rfl

theorem head_mem_items (run : Separated σ α) : run.head ∈ run.items := List.mem_cons_self

theorem forall_items_extend {P : List α → Prop} {c : α} {run : Separated σ (List α)}
    (all : ∀ a ∈ run.items, P a) (first : P (c :: run.head)) : ∀ a ∈ (run.extend c).items, P a :=
  List.forall_mem_cons.mpr ⟨first, fun a member => all a (List.mem_cons_of_mem _ member)⟩

theorem items_map (f : β → α) (run : Separated σ β) : (run.map f).items = run.items.map f := by
  simp [map, items, Function.comp_def]

theorem map_map_cancel {f : α → β} {g : β → α} {run : Separated σ α}
    (cancel : ∀ a ∈ run.items, g (f a) = a) : (run.map f).map g = run := by
  obtain ⟨head, tail⟩ := run
  simp only [items, List.forall_mem_cons, List.forall_mem_map] at cancel
  have tails : tail.map (fun pair => (pair.1, g (f pair.2))) = tail.map id :=
    List.map_congr_left fun pair member => by rw [cancel.2 pair member]; rfl
  simpa [map, Function.comp_def, cancel.1] using tails

theorem mem_render {c : Char} {run : Separated σ α} :
    c ∈ run.render separator item ↔
      (∃ a ∈ run.items, c ∈ item a) ∨ ∃ pair ∈ run.tail, c ∈ separator pair.1 := by
  simp only [render, items, List.mem_append, List.mem_flatMap, List.mem_cons, List.mem_map]
  constructor
  · rintro (inHead | ⟨pair, inTail, inSeparator | inItem⟩)
    · exact Or.inl ⟨_, Or.inl rfl, inHead⟩
    · exact Or.inr ⟨pair, inTail, inSeparator⟩
    · exact Or.inl ⟨_, Or.inr ⟨pair, inTail, rfl⟩, inItem⟩
  · rintro (⟨a, rfl | ⟨pair, inTail, rfl⟩, inItem⟩ | ⟨pair, inTail, inSeparator⟩)
    · exact Or.inl inItem
    · exact Or.inr ⟨pair, inTail, Or.inr inItem⟩
    · exact Or.inr ⟨pair, inTail, Or.inl inSeparator⟩

variable (separator item) in
theorem head_prefix_render (run : Separated σ α) : item run.head <+: run.render separator item :=
  List.prefix_append _ _

end Separated

/-- The first mark after a front without it is where the text is split. -/
theorem splitFirst_append {mark : Char} {front : List Char} (free : mark ∉ front)
    (back : List Char) : splitFirst mark (front ++ mark :: back) = some (front, back) := by
  induction front with
  | nil => simp [splitFirst]
  | cons c cs ih =>
    have other : c ≠ mark := fun same => free (by simp [same])
    have rest : mark ∉ cs := fun member => free (by simp [member])
    simp [splitFirst, other, ih rest]

namespace Entry

/-- The key ends at the first equals sign, and entries end at an ampersand. -/
structure Plain (entry : Entry) : Prop where
  keyFree : '&' ∉ entry.key ∧ '=' ∉ entry.key
  valueFree : ∀ value ∈ entry.value, '&' ∉ value

instance (entry : Entry) : Decidable entry.Plain :=
  decidable_of_iff (('&' ∉ entry.key ∧ '=' ∉ entry.key) ∧ ∀ value ∈ entry.value, '&' ∉ value)
    ⟨fun h => ⟨h.1, h.2⟩, fun h => ⟨h.keyFree, h.valueFree⟩⟩

theorem read_render (entry : Entry) (plain : '=' ∉ entry.key) : read entry.render = entry := by
  obtain ⟨key, value⟩ := entry
  cases value with
  | none => simp [read, render, splitFirst_eq_none_iff.mpr plain]
  | some value => simp [read, render, splitFirst_append plain]

theorem plain_read {cs : List Char} (free : '&' ∉ cs) : (read cs).Plain := by
  unfold read
  split
  next key value split =>
    obtain ⟨rfl, keyFree⟩ := splitFirst_eq_some split
    simp only [List.mem_append, List.mem_cons, not_or] at free
    exact ⟨⟨free.1, keyFree⟩, by simpa using free.2.2⟩
  next split => exact ⟨⟨free, splitFirst_eq_none_iff.mp split⟩, by simp⟩

theorem Plain.render_free {entry : Entry} (plain : entry.Plain) : '&' ∉ entry.render := by
  obtain ⟨key, value⟩ := entry
  cases value with
  | none => exact plain.keyFree.1
  | some value => simp [render, plain.keyFree.1, plain.valueFree value rfl]

end Entry

/-! ### The path -/

theorem PathSeparator.ofChar?_char (separator : PathSeparator) :
    ofChar? separator.char = some separator := by
  cases separator <;> rfl

theorem PathSeparator.char_of_ofChar? {c : Char} {separator : PathSeparator}
    (found : ofChar? c = some separator) : separator.char = c := by
  unfold ofChar? at found
  split at found
  next colon => cases found; exact colon.symm
  next =>
    split at found
    next slash => cases found; exact slash.symm
    next => contradiction

theorem PathSeparator.ofChar?_eq_none_iff {c : Char} : ofChar? c = none ↔ c ≠ ':' ∧ c ≠ '/' := by
  unfold ofChar?
  by_cases colon : c = ':' <;> by_cases slash : c = '/' <;> simp [colon, slash]

theorem render_readPath (cs : List Char) : Layout.renderPath (readPath cs) = cs := by
  unfold Layout.renderPath
  induction cs with
  | nil => rfl
  | cons c cs ih =>
    rw [readPath]
    split
    next separator found => simp [ih, PathSeparator.char_of_ofChar? found]
    next => simp [ih]

theorem readPath_free (cs : List Char) :
    ∀ segment ∈ (readPath cs).items, ':' ∉ segment ∧ '/' ∉ segment := by
  induction cs with
  | nil => simp [readPath, Separated.items]
  | cons c cs ih =>
    rw [readPath]
    split
    next => simpa using ih
    next other =>
      obtain ⟨colon, slash⟩ := PathSeparator.ofChar?_eq_none_iff.mp other
      have first := ih _ (Separated.head_mem_items _)
      apply Separated.forall_items_extend ih
      simp [Ne.symm colon, Ne.symm slash, first.1, first.2]

theorem readPath_append {segment : List Char} (free : ':' ∉ segment ∧ '/' ∉ segment)
    (rest : List Char) :
    readPath (segment ++ rest) = ⟨segment ++ (readPath rest).head, (readPath rest).tail⟩ := by
  induction segment with
  | nil => rfl
  | cons c cs ih =>
    simp only [List.mem_cons, not_or] at free
    have other := PathSeparator.ofChar?_eq_none_iff.mpr ⟨Ne.symm free.1.1, Ne.symm free.2.1⟩
    simp [readPath, other, ih ⟨free.1.2, free.2.2⟩, Separated.extend]

theorem readPath_separator (separator : PathSeparator) (cs : List Char) :
    readPath (separator.char :: cs) = (readPath cs).push separator := by
  simp [readPath, PathSeparator.ofChar?_char]

theorem readPath_render (path : Separated PathSeparator (List Char))
    (free : ∀ segment ∈ path.items, ':' ∉ segment ∧ '/' ∉ segment) :
    readPath (Layout.renderPath path) = path := by
  obtain ⟨head, tail⟩ := path
  -- The next segment takes the place of the head, so the induction is over every head.
  induction tail generalizing head with
  | nil =>
    have alone := readPath_append (free head (Separated.head_mem_items _)) []
    simpa [Layout.renderPath, Separated.render, readPath] using alone
  | cons pair rest ih =>
    obtain ⟨separator, next⟩ := pair
    have here := free head (Separated.head_mem_items _)
    have later := ih next fun segment member => free segment (List.mem_cons_of_mem _ member)
    have shape : Layout.renderPath ⟨head, (separator, next) :: rest⟩ =
        head ++ separator.char :: Layout.renderPath ⟨next, rest⟩ := Separated.render_cons ..
    rw [shape, readPath_append here, readPath_separator, later]
    simp [Separated.push]

/-! ### The query -/

/-- What follows the ampersand of an escaped separator. -/
def escapeTail : List Char := ['a', 'm', 'p', ';']

theorem readQuery_escaped (cs : List Char) :
    readQuery (QuerySeparator.escaped.chars ++ cs) = (readQuery cs).push .escaped := rfl

/-- An ampersand is a plain separator when it does not begin an escaped one. -/
theorem readQuery_plain {cs : List Char} (unescaped : ¬ escapeTail <+: cs) :
    readQuery ('&' :: cs) = (readQuery cs).push .plain := by
  rw [readQuery]
  · simp
  · rintro rest _ rfl
    exact unescaped ⟨rest, rfl⟩

theorem readQuery_other {c : Char} (other : c ≠ '&') (cs : List Char) :
    readQuery (c :: cs) = (readQuery cs).extend c := by
  rw [readQuery]
  · simp [other]
  · rintro rest rfl _
    exact other rfl

theorem render_readQuery (cs : List Char) :
    (readQuery cs).render QuerySeparator.chars id = cs := by
  fun_induction readQuery cs with
  | case1 => rfl
  | case2 cs ih => simp [ih, QuerySeparator.chars]
  | case3 cs _ ih => simp [ih, QuerySeparator.chars]
  | case4 c cs _ other ih => simp [ih]

theorem readQuery_free (cs : List Char) : ∀ item ∈ (readQuery cs).items, '&' ∉ item := by
  fun_induction readQuery cs with
  | case1 => simp [Separated.items]
  | case2 cs ih => simpa using ih
  | case3 cs _ ih => simpa using ih
  | case4 c cs _ other ih =>
    have first := ih _ (Separated.head_mem_items _)
    apply Separated.forall_items_extend ih
    simp [Ne.symm other, first]

/-- An item after a plain ampersand never continues it to an escaped one. -/
theorem readQuery_unescaped (cs : List Char) :
    ∀ pair ∈ (readQuery cs).tail, pair.1 = .plain → ¬ escapeTail <+: pair.2 := by
  fun_induction readQuery cs with
  | case1 => simp
  | case2 cs ih => simpa [Separated.push] using ih
  | case3 cs unescaped ih =>
    simp only [Separated.push, List.forall_mem_cons]
    refine ⟨fun _ continues => ?_, ih⟩
    -- The first item is how the text after the ampersand begins.
    have begins := Separated.head_prefix_render QuerySeparator.chars id (readQuery cs)
    rw [render_readQuery] at begins
    obtain ⟨rest, rfl⟩ := continues.trans begins
    exact unescaped rest rfl rfl
  | case4 c cs _ other ih => exact ih

theorem readQuery_append {item : List Char} (free : '&' ∉ item) (rest : List Char) :
    readQuery (item ++ rest) = ⟨item ++ (readQuery rest).head, (readQuery rest).tail⟩ := by
  induction item with
  | nil => rfl
  | cons c cs ih =>
    simp only [List.mem_cons, not_or] at free
    rw [List.cons_append, readQuery_other (Ne.symm free.1), ih free.2]
    rfl

/-- The rest of an escaped separator holds no ampersand, so it cannot reach past an item. -/
theorem escapeTail_within {item : List Char} {run : List (QuerySeparator × List Char)}
    (continues : escapeTail <+: item ++ run.flatMap fun pair => pair.1.chars ++ pair.2) :
    escapeTail <+: item := by
  cases run with
  | nil => simpa using continues
  | cons pair rest =>
    obtain ⟨more, shape⟩ : ∃ more, pair.1.chars ++ pair.2 = '&' :: more := by
      cases pair.1 <;> exact ⟨_, rfl⟩
    rw [List.flatMap_cons, shape] at continues
    rcases Nat.lt_or_ge item.length escapeTail.length with long | short
    · have inside : item ++ ['&'] <+: escapeTail := by
        refine List.prefix_of_prefix_length_le ?_ continues ?_
        · exact ⟨more ++ rest.flatMap fun pair => pair.1.chars ++ pair.2, by simp⟩
        · rw [List.length_append, List.length_singleton]
          exact long
      have ampersand : '&' ∈ escapeTail := inside.subset (by simp)
      simp [escapeTail] at ampersand
    · exact List.prefix_of_prefix_length_le continues (List.prefix_append _ _) short

theorem readQuery_render (run : Separated QuerySeparator (List Char))
    (free : ∀ item ∈ run.items, '&' ∉ item)
    (unescaped : ∀ pair ∈ run.tail, pair.1 = .plain → ¬ escapeTail <+: pair.2) :
    readQuery (run.render QuerySeparator.chars id) = run := by
  obtain ⟨head, tail⟩ := run
  induction tail generalizing head with
  | nil =>
    have alone := readQuery_append (free head (Separated.head_mem_items _)) []
    simpa [Separated.render, readQuery] using alone
  | cons pair rest ih =>
    obtain ⟨separator, next⟩ := pair
    have here := free head (Separated.head_mem_items _)
    have later := ih next (fun item member => free item (List.mem_cons_of_mem _ member))
      (fun pair member => unescaped pair (List.mem_cons_of_mem _ member))
    have divided : readQuery
        (separator.chars ++ Separated.render QuerySeparator.chars id ⟨next, rest⟩) =
        Separated.push separator ⟨next, rest⟩ := by
      cases separator with
      | escaped => rw [readQuery_escaped, later]
      | plain =>
        have ends : ¬ escapeTail <+: Separated.render QuerySeparator.chars id ⟨next, rest⟩ :=
          fun continues => unescaped _ List.mem_cons_self rfl (escapeTail_within continues)
        exact (readQuery_plain ends).trans (by rw [later])
    rw [Separated.render_cons, id, readQuery_append here, divided]
    simp [Separated.push]

/-! ### Whole layouts -/

namespace Layout

/-- The pieces hold no mark that would divide them where they stand. A key or value may begin
with `amp;` after an escaped ampersand, but not after a plain one. -/
structure Regular (scheme : List Char) (path : Separated PathSeparator (List Char))
    (query : Option (Separated QuerySeparator Entry)) : Prop where
  schemeNonempty : scheme ≠ []
  schemeFree : ':' ∉ scheme
  segmentsFree : ∀ segment ∈ path.items, ':' ∉ segment ∧ '/' ∉ segment ∧ '?' ∉ segment
  entriesPlain : ∀ run ∈ query, ∀ entry ∈ run.items, entry.Plain
  unescaped : ∀ run ∈ query, ∀ pair ∈ run.tail, pair.1 = .plain → ¬ escapeTail <+: pair.2.render

instance (scheme : List Char) (path : Separated PathSeparator (List Char))
    (query : Option (Separated QuerySeparator Entry)) : Decidable (Regular scheme path query) :=
  decidable_of_iff
    (scheme ≠ [] ∧ ':' ∉ scheme ∧
      (∀ segment ∈ path.items, ':' ∉ segment ∧ '/' ∉ segment ∧ '?' ∉ segment) ∧
      (∀ run ∈ query, ∀ entry ∈ run.items, entry.Plain) ∧
      ∀ run ∈ query, ∀ pair ∈ run.tail, pair.1 = .plain → ¬ escapeTail <+: pair.2.render)
    ⟨fun h => ⟨h.1, h.2.1, h.2.2.1, h.2.2.2.1, h.2.2.2.2⟩,
      fun h => ⟨h.schemeNonempty, h.schemeFree, h.segmentsFree, h.entriesPlain, h.unescaped⟩⟩

/-- Reading loses nothing, whatever the text. -/
theorem render_read (cs : List Char) : (read cs).render = cs := by
  unfold read
  split
  next c scheme rest split =>
    obtain ⟨rfl, -⟩ := splitFirst_eq_some split
    unfold readBody
    split
    next path query split =>
      obtain ⟨rfl, -⟩ := splitFirst_eq_some split
      have entries : Entry.render ∘ Entry.read = id := funext Entry.render_read
      simp [render, renderQuery, Separated.render_map, entries, render_readPath, render_readQuery]
    next => simp [render, render_readPath]
  next => rfl

theorem question_not_mem_renderPath {path : Separated PathSeparator (List Char)}
    (free : ∀ segment ∈ path.items, '?' ∉ segment) : '?' ∉ renderPath path := by
  intro member
  rcases Separated.mem_render.mp member with ⟨segment, inItems, inside⟩ | ⟨pair, -, inside⟩
  · exact free segment inItems inside
  · cases separator : pair.1 <;> simp [separator, PathSeparator.char] at inside

theorem readQuery_renderQuery {query : Separated QuerySeparator Entry}
    (plain : ∀ entry ∈ query.items, entry.Plain)
    (unescaped : ∀ pair ∈ query.tail, pair.1 = .plain → ¬ escapeTail <+: pair.2.render) :
    (readQuery (renderQuery query)).map Entry.read = query := by
  have items : ∀ item ∈ (query.map Entry.render).items, '&' ∉ item := by
    rw [Separated.items_map]
    intro item member
    obtain ⟨entry, inItems, rfl⟩ := List.mem_map.mp member
    exact (plain entry inItems).render_free
  have tails : ∀ pair ∈ (query.map Entry.render).tail,
      pair.1 = .plain → ¬ escapeTail <+: pair.2 := by
    intro pair member
    obtain ⟨⟨separator, entry⟩, inTail, rfl⟩ := List.mem_map.mp member
    exact unescaped _ inTail
  have written := readQuery_render (query.map Entry.render) items tails
  rw [Separated.render_map] at written
  have cancelled := Separated.map_map_cancel fun entry member =>
    Entry.read_render entry (plain entry member).keyFree.2
  exact (congrArg (Separated.map Entry.read) written).trans cancelled

theorem read_scheme {scheme : List Char} (nonempty : scheme ≠ []) (free : ':' ∉ scheme)
    (rest : List Char) : read (scheme ++ ':' :: rest) = readBody scheme rest := by
  obtain ⟨c, cs, rfl⟩ := List.exists_cons_of_ne_nil nonempty
  rw [read, splitFirst_append free]

/-- Regular pieces are read back as they were written. -/
theorem read_render {scheme : List Char} {path : Separated PathSeparator (List Char)}
    {query : Option (Separated QuerySeparator Entry)} (regular : Regular scheme path query) :
    read (full scheme path query).render = full scheme path query := by
  have samePath := readPath_render path fun segment member =>
    ⟨(regular.segmentsFree segment member).1, (regular.segmentsFree segment member).2.1⟩
  have noQuestion := question_not_mem_renderPath fun segment member =>
    (regular.segmentsFree segment member).2.2
  cases query with
  | none =>
    rw [render, read_scheme regular.schemeNonempty regular.schemeFree]
    simp [readBody, splitFirst_eq_none_iff.mpr noQuestion, samePath]
  | some run =>
    have sameQuery := readQuery_renderQuery (regular.entriesPlain run rfl)
      (regular.unescaped run rfl)
    rw [render, List.append_assoc, List.cons_append,
      read_scheme regular.schemeNonempty regular.schemeFree]
    simp [readBody, splitFirst_append noQuestion, samePath, sameQuery]

theorem readPath_segmentsFree {cs : List Char} (noQuestion : '?' ∉ cs) :
    ∀ segment ∈ (readPath cs).items, ':' ∉ segment ∧ '/' ∉ segment ∧ '?' ∉ segment := by
  intro segment member
  obtain ⟨colon, slash⟩ := readPath_free cs segment member
  refine ⟨colon, slash, fun question => noQuestion ?_⟩
  rw [← render_readPath cs]
  exact Separated.mem_render.mpr (Or.inl ⟨segment, member, question⟩)

theorem regular_readBody {scheme : List Char} (nonempty : scheme ≠ []) (free : ':' ∉ scheme)
    (rest : List Char) :
    ∃ path query, readBody scheme rest = full scheme path query ∧ Regular scheme path query := by
  unfold readBody
  split
  next path query split =>
    obtain ⟨-, noQuestion⟩ := splitFirst_eq_some split
    refine ⟨_, _, rfl, nonempty, free, readPath_segmentsFree noQuestion, ?_, ?_⟩
    · rintro _ ⟨⟩ entry member
      rw [Separated.items_map] at member
      obtain ⟨item, inItems, rfl⟩ := List.mem_map.mp member
      exact Entry.plain_read (readQuery_free query item inItems)
    · rintro _ ⟨⟩ pair member
      obtain ⟨⟨separator, item⟩, inTail, rfl⟩ := List.mem_map.mp member
      rw [Entry.render_read]
      exact readQuery_unescaped query _ inTail
  next split =>
    have noQuestion := splitFirst_eq_none_iff.mp split
    exact ⟨_, _, rfl, nonempty, free, readPath_segmentsFree noQuestion, by simp, by simp⟩

/-- A text without a colon, or with nothing before its first one, has no scheme. -/
def Schemeless (cs : List Char) : Prop := ':' ∉ cs ∨ cs.head? = some ':'

theorem read_schemeless {cs : List Char} (schemeless : Schemeless cs) : read cs = bare cs := by
  unfold read
  split
  next c scheme rest split =>
    obtain ⟨rfl, free⟩ := splitFirst_eq_some split
    rcases schemeless with noColon | leading
    · simp at noColon
    · simp only [List.cons_append, List.head?_cons, Option.some.injEq] at leading
      simp [leading] at free
  next => rfl

/-- In any other text reading finds regular pieces. -/
theorem read_of_not_schemeless {cs : List Char} (hasScheme : ¬ Schemeless cs) :
    ∃ scheme path query, read cs = full scheme path query ∧ Regular scheme path query := by
  obtain ⟨colon, notLeading⟩ := not_or.mp hasScheme
  cases split : splitFirst ':' cs with
  | none => exact absurd (splitFirst_eq_none_iff.mp split) colon
  | some sides =>
    obtain ⟨scheme, rest⟩ := sides
    obtain ⟨rfl, free⟩ := splitFirst_eq_some split
    have nonempty : scheme ≠ [] := by
      rintro rfl
      exact notLeading rfl
    obtain ⟨path, query, body, regular⟩ := regular_readBody nonempty free rest
    exact ⟨scheme, path, query, (read_scheme nonempty free rest).trans body, regular⟩

/-- Reading finds exactly the pieces from which the text is written. -/
theorem read_eq_full_iff {cs scheme : List Char} {path : Separated PathSeparator (List Char)}
    {query : Option (Separated QuerySeparator Entry)} :
    read cs = full scheme path query ↔
      Regular scheme path query ∧ (full scheme path query).render = cs := by
  constructor
  · intro found
    refine ⟨?_, by rw [← found, render_read]⟩
    by_cases schemeless : Schemeless cs
    · rw [read_schemeless schemeless] at found
      contradiction
    · obtain ⟨_, _, _, same, regular⟩ := read_of_not_schemeless schemeless
      rw [found] at same
      cases same
      exact regular
  · rintro ⟨regular, rfl⟩
    exact read_render regular

/-- The texts that cannot be written are those without a scheme. -/
theorem not_exists_regular_iff {cs : List Char} :
    (¬ ∃ scheme path query, Regular scheme path query ∧ (full scheme path query).render = cs) ↔
      Schemeless cs := by
  constructor
  · intro unwritten
    by_cases schemeless : Schemeless cs
    · exact schemeless
    · obtain ⟨scheme, path, query, found, -⟩ := read_of_not_schemeless schemeless
      exact absurd ⟨scheme, path, query, read_eq_full_iff.mp found⟩ unwritten
  · rintro schemeless ⟨scheme, path, query, written⟩
    have found := read_eq_full_iff.mpr written
    rw [read_schemeless schemeless] at found
    contradiction

end Layout

/-! ### The parsed nodes -/

def QueryParam.content (param : QueryParam) : String × Option String :=
  (param.key.text, param.value.map (·.text))

def Entry.content (entry : Entry) : String × Option String :=
  (String.ofList entry.key, entry.value.map String.ofList)

theorem QueryParam.content_place (offset : Nat) (entry : Entry) :
    (QueryParam.place offset entry).content = entry.content := by
  obtain ⟨key, value⟩ := entry
  cases value <;> rfl

theorem placePath_texts (offset index : Nat) (segment : List Char)
    (tail : List (PathSeparator × List Char)) :
    (placePath offset index segment tail).map (·.text) =
      (Separated.mk segment tail).items.map String.ofList := by
  induction tail generalizing offset index segment with
  | nil => rfl
  | cons pair rest ih =>
    obtain ⟨separator, next⟩ := pair
    simpa [placePath, Separated.items, PathParam.place, Token.place] using ih _ _ next

theorem placeQuery_contents (offset : Nat) (entry : Entry) (tail : List (QuerySeparator × Entry)) :
    (placeQuery offset entry tail).map QueryParam.content =
      (Separated.mk entry tail).items.map Entry.content := by
  induction tail generalizing offset entry with
  | nil => simp [placeQuery, Separated.items, QueryParam.content_place]
  | cons pair rest ih =>
    obtain ⟨separator, next⟩ := pair
    simpa [placeQuery, Separated.items, QueryParam.content_place] using ih _ next

theorem Uri.parse_of_read {text : String} {scheme : List Char}
    {path : Separated PathSeparator (List Char)} {query : Option (Separated QuerySeparator Entry)}
    (found : Layout.read text.toList = .full scheme path query) :
    (parse text).schemePath.scheme.text = String.ofList scheme ∧
      (parse text).schemePath.params.map (·.text) = path.items.map String.ofList ∧
      (parse text).query.map QueryParam.content =
        (query.elim [] Separated.items).map Entry.content := by
  simp only [parse, found, Layout.schemePath]
  refine ⟨rfl, placePath_texts _ _ _ _, ?_⟩
  cases query with
  | none => rfl
  | some run => exact placeQuery_contents _ _ _

/-- Parsing undoes writing: pieces that hold no mark of their own place come back as they were,
however the query is spelt, and all other texts are those without a scheme, which stay whole. -/
theorem parse_undoes_render :
    (∀ scheme path query, Layout.Regular scheme path query →
      let uri := Uri.parse (String.ofList (Layout.full scheme path query).render)
      uri.schemePath.scheme.text = String.ofList scheme ∧
      uri.schemePath.params.map (·.text) = path.items.map String.ofList ∧
      uri.query.map QueryParam.content = (query.elim [] Separated.items).map Entry.content) ∧
    (∀ scheme path run run', Layout.Regular scheme path (some run) →
      Layout.Regular scheme path (some run') → run.items = run'.items →
      (Uri.parse (String.ofList (Layout.full scheme path (some run)).render)).query.map
          QueryParam.content =
        (Uri.parse (String.ofList (Layout.full scheme path (some run')).render)).query.map
          QueryParam.content) ∧
    (∀ text : String,
      (¬ ∃ scheme path query, Layout.Regular scheme path query ∧
        (Layout.full scheme path query).render = text.toList) ↔
      Layout.Schemeless text.toList) ∧
    (∀ text : String, Layout.Schemeless text.toList →
      (Uri.parse text).schemePath.scheme.text = text ∧
      (Uri.parse text).schemePath.params = [] ∧ (Uri.parse text).query = []) := by
  have written {scheme path query} (regular : Layout.Regular scheme path query) :
      Layout.read (String.ofList (Layout.full scheme path query).render).toList =
        .full scheme path query := by
    rw [String.toList_ofList, Layout.read_render regular]
  refine ⟨fun scheme path query regular => Uri.parse_of_read (written regular), ?_,
    fun text => Layout.not_exists_regular_iff, ?_⟩
  · intro scheme path run run' regular regular' same
    rw [(Uri.parse_of_read (written regular)).2.2, (Uri.parse_of_read (written regular')).2.2]
    simp [same]
  · intro text schemeless
    simp only [Uri.parse, Layout.read_schemeless schemeless]
    exact ⟨String.ofList_toList, rfl, rfl⟩

/-- A question mark in the scheme, empty segments, keys that begin with `amp;` and a value with an
equals sign, under both spellings of the last separator; and a text that begins with its colon. -/
theorem parse_undoes_render_mixed :
    let scheme := ['a', '?', 'b']
    let path : Separated PathSeparator (List Char) := ⟨[], [(.slash, ['x']), (.colon, [])]⟩
    let first : Entry := ⟨escapeTail, none⟩
    let second : Entry := ⟨escapeTail, some ['=', 'v']⟩
    let run : QuerySeparator → Separated QuerySeparator Entry := fun last =>
      ⟨first, [(.escaped, second), (last, ⟨[], some []⟩)]⟩
    let uri := Uri.parse (String.ofList (Layout.full scheme path (some (run .plain))).render)
    Layout.Regular scheme path (some (run .plain)) ∧
    Layout.Regular scheme path (some (run .escaped)) ∧
    uri.schemePath.params.map (·.text) = ["", "x", ""] ∧
    uri.query.map QueryParam.content = [("amp;", none), ("amp;", some "=v"), ("", some "")] ∧
    (Uri.parse (String.ofList (Layout.full scheme path (some (run .escaped))).render)).query.map
      QueryParam.content = uri.query.map QueryParam.content ∧
    (Uri.parse ":x?y=1").schemePath.scheme.text = ":x?y=1" := by
  intro scheme path first second run uri
  have plain : Layout.Regular scheme path (some (run .plain)) := by decide
  have escaped : Layout.Regular scheme path (some (run .escaped)) := by decide
  obtain ⟨-, segments, entries⟩ := parse_undoes_render.1 scheme path (some (run .plain)) plain
  exact ⟨plain, escaped, segments, entries,
    parse_undoes_render.2.1 scheme path (run .escaped) (run .plain) escaped plain rfl,
    (parse_undoes_render.2.2.2 ":x?y=1" (Or.inr rfl)).1⟩

end EndpointUri
