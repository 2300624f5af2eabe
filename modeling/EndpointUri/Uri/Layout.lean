/-!
The layout of an endpoint URI: its pieces with the separators between them, and no offsets.
`Layout.read` takes a text apart and `Layout.render` writes it back, separators included, so
nothing of the text is lost on the way.
-/
namespace EndpointUri

/-- Path parameters are divided by either character. -/
inductive PathSeparator where
  | colon
  | slash
  deriving DecidableEq, Repr

def PathSeparator.char : PathSeparator → Char
  | .colon => ':'
  | .slash => '/'

def PathSeparator.ofChar? (c : Char) : Option PathSeparator :=
  if c = ':' then some .colon else if c = '/' then some .slash else none

/-- Query parameters are divided by an ampersand, which an XML document writes escaped. -/
inductive QuerySeparator where
  | plain
  | escaped
  deriving DecidableEq, Repr

def QuerySeparator.chars : QuerySeparator → List Char
  | .plain => ['&']
  | .escaped => ['&', 'a', 'm', 'p', ';']

/-- A non-empty run of items, where each item but the first follows a separator. -/
structure Separated (σ α : Type) where
  head : α
  tail : List (σ × α)
  deriving DecidableEq, Repr

namespace Separated

variable {σ α β : Type}

def items (run : Separated σ α) : List α := run.head :: run.tail.map Prod.snd

def map (f : α → β) (run : Separated σ α) : Separated σ β :=
  ⟨f run.head, run.tail.map fun (separator, item) => (separator, f item)⟩

def push (separator : σ) (run : Separated σ (List α)) : Separated σ (List α) :=
  ⟨[], (separator, run.head) :: run.tail⟩

def extend (c : α) (run : Separated σ (List α)) : Separated σ (List α) :=
  ⟨c :: run.head, run.tail⟩

def render (separator : σ → List Char) (item : α → List Char) (run : Separated σ α) : List Char :=
  item run.head ++ run.tail.flatMap fun (s, a) => separator s ++ item a

end Separated

/-- A query entry; without an equals sign it has no value. -/
structure Entry where
  key : List Char
  value : Option (List Char)
  deriving DecidableEq, Repr

/-- Splits at the first `mark`, which belongs to neither side. -/
def splitFirst (mark : Char) : List Char → Option (List Char × List Char)
  | [] => none
  | c :: cs =>
    if c = mark then some ([], cs)
    else (splitFirst mark cs).map fun (front, back) => (c :: front, back)

theorem splitFirst_eq_some {mark : Char} {cs front back : List Char}
    (h : splitFirst mark cs = some (front, back)) : cs = front ++ mark :: back ∧ mark ∉ front := by
  induction cs generalizing front back with
  | nil => simp [splitFirst] at h
  | cons c cs ih =>
    rw [splitFirst] at h
    split at h
    next hc =>
      simp only [Option.some.injEq, Prod.mk.injEq] at h
      obtain ⟨rfl, rfl⟩ := h
      simp [hc]
    next hc =>
      obtain ⟨⟨f, b⟩, hsplit, hpair⟩ := Option.map_eq_some_iff.1 h
      simp only [Prod.mk.injEq] at hpair
      obtain ⟨rfl, rfl⟩ := hpair
      obtain ⟨happ, hmem⟩ := ih hsplit
      exact ⟨by simp [happ], by simp [hmem, Ne.symm hc]⟩

theorem splitFirst_eq_none_iff {mark : Char} {cs : List Char} :
    splitFirst mark cs = none ↔ mark ∉ cs := by
  induction cs with
  | nil => simp [splitFirst]
  | cons c cs ih =>
    rw [splitFirst]
    split
    next hc => simp [hc]
    next hc => simp [ih, Ne.symm hc]

namespace Entry

def read (cs : List Char) : Entry :=
  match splitFirst '=' cs with
  | some (key, value) => ⟨key, some value⟩
  | none => ⟨cs, none⟩

def render (entry : Entry) : List Char :=
  match entry.value with
  | some value => entry.key ++ '=' :: value
  | none => entry.key

theorem render_read (cs : List Char) : (read cs).render = cs := by
  unfold read
  split
  next key value h => simp [render, (splitFirst_eq_some h).1]
  next => rfl

end Entry

/-- Every separator divides two segments, so segments may be empty. -/
def readPath : List Char → Separated PathSeparator (List Char)
  | [] => ⟨[], []⟩
  | c :: cs =>
    match PathSeparator.ofChar? c with
    | some separator => (readPath cs).push separator
    | none => (readPath cs).extend c

/-- The escaped separator is tried first, so `&amp;` never leaves an `amp;` behind. -/
def readQuery : List Char → Separated QuerySeparator (List Char)
  | [] => ⟨[], []⟩
  | '&' :: 'a' :: 'm' :: 'p' :: ';' :: cs => (readQuery cs).push .escaped
  | c :: cs => if c = '&' then (readQuery cs).push .plain else (readQuery cs).extend c

/-- A text with a scheme has a path, perhaps of one empty segment, and perhaps a query. Any
other text is bare. -/
inductive Layout where
  | bare (text : List Char)
  | full (scheme : List Char) (path : Separated PathSeparator (List Char))
      (query : Option (Separated QuerySeparator Entry))
  deriving DecidableEq, Repr

namespace Layout

/-- Path and query of what follows the scheme's colon: the first question mark divides them. -/
def readBody (scheme rest : List Char) : Layout :=
  match splitFirst '?' rest with
  | some (path, query) => full scheme (readPath path) (some ((readQuery query).map Entry.read))
  | none => full scheme (readPath rest) none

/-- The scheme ends at the first colon. Without a colon, or with nothing before it, there is
no scheme to tell apart and the text is bare. -/
def read (cs : List Char) : Layout :=
  match splitFirst ':' cs with
  | some (c :: scheme, rest) => readBody (c :: scheme) rest
  | _ => bare cs

def renderPath (path : Separated PathSeparator (List Char)) : List Char :=
  path.render (fun separator => [separator.char]) id

def renderQuery (query : Separated QuerySeparator Entry) : List Char :=
  query.render QuerySeparator.chars Entry.render

def render : Layout → List Char
  | bare text => text
  | full scheme path none => scheme ++ ':' :: renderPath path
  | full scheme path (some query) => scheme ++ ':' :: renderPath path ++ '?' :: renderQuery query

end Layout
end EndpointUri
