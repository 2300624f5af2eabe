import EndpointUri.Text.Word

/-!
The journal: what the program reports about its own work. A computation that reports is a value
together with its records in order; the records never influence the value.
-/
namespace EndpointUri

/-- From the most severe to the most detailed. -/
inductive Level where
  | error
  | warn
  | info
  | debug
  | trace
  deriving DecidableEq, Repr

namespace Level

def rank : Level → Nat
  | error => 1
  | warn => 2
  | info => 3
  | debug => 4
  | trace => 5

def name : Level → String
  | error => "ERROR"
  | warn => "WARN"
  | info => "INFO"
  | debug => "DEBUG"
  | trace => "TRACE"

def all : List Level := [error, warn, info, debug, trace]

end Level

/-- How much of the journal is shown: nothing, or every record at least as severe as a level. -/
inductive Verbosity where
  | off
  | upTo (level : Level)
  deriving DecidableEq, Repr

namespace Verbosity

def shows : Verbosity → Level → Bool
  | off, _ => false
  | upTo most, level => level.rank ≤ most.rank

def name : Verbosity → String
  | off => "OFF"
  | upTo level => level.name

def all : List Verbosity := off :: Level.all.map upTo

/-- Names are matched without regard to case. -/
def ofName? (word : String) : Option Verbosity := all.find? (Text.sameWord word ·.name)

theorem mem_all (verbosity : Verbosity) : verbosity ∈ all := by
  cases verbosity with
  | off => decide
  | upTo level => cases level <;> decide

theorem foldCase_name_inj : ∀ first ∈ all, ∀ second ∈ all,
    Text.foldCase first.name = Text.foldCase second.name → first = second := by
  decide

/-- The words that are known are the names, in any case. -/
theorem ofName?_eq_some_iff {word : String} {verbosity : Verbosity} :
    ofName? word = some verbosity ↔ Text.sameWord word verbosity.name = true := by
  constructor
  · exact List.find?_some
  · intro same
    rw [ofName?]
    cases found : all.find? (Text.sameWord word ·.name) with
    | none => exact absurd same (List.find?_eq_none.mp found verbosity (mem_all verbosity))
    | some first =>
      have first_same := List.find?_some found
      rw [Text.sameWord, beq_iff_eq] at same first_same
      rw [foldCase_name_inj first (mem_all first) verbosity (mem_all verbosity)
        (first_same.symm.trans same)]

end Verbosity

inductive Topic where
  | uri
  | catalog
  | completion
  | config
  deriving DecidableEq, Repr

def Topic.target : Topic → String
  | .uri => "camel_uri_ls::uri"
  | .catalog => "camel_uri_ls::catalog"
  | .completion => "camel_uri_ls::completion"
  | .config => "camel_uri_ls::config"

structure Record where
  level : Level
  topic : Topic
  message : String
  deriving DecidableEq, Repr

structure Logged (α : Type) where
  value : α
  records : List Record

namespace Logged

variable {α β : Type}

instance : Monad Logged where
  pure a := ⟨a, []⟩
  bind x f := ⟨(f x.value).value, x.records ++ (f x.value).records⟩

def log (level : Level) (topic : Topic) (message : String) : Logged Unit :=
  ⟨(), [⟨level, topic, message⟩]⟩

@[simp] theorem value_pure (a : α) : (pure a : Logged α).value = a := rfl

@[simp] theorem records_pure (a : α) : (pure a : Logged α).records = [] := rfl

@[simp] theorem value_bind (x : Logged α) (f : α → Logged β) :
    (x >>= f).value = (f x.value).value := rfl

@[simp] theorem records_bind (x : Logged α) (f : α → Logged β) :
    (x >>= f).records = x.records ++ (f x.value).records := rfl

@[simp] theorem value_map (f : α → β) (x : Logged α) : (f <$> x).value = f x.value := rfl

@[simp] theorem records_map (f : α → β) (x : Logged α) : (f <$> x).records = x.records :=
  List.append_nil x.records

theorem ext {x y : Logged α} (value : x.value = y.value) (records : x.records = y.records) :
    x = y := by
  cases x; cases y; cases value; cases records; rfl

instance : LawfulMonad Logged := LawfulMonad.mk' Logged
  (fun x => Logged.ext rfl (by change x.records ++ [] = x.records; simp))
  (fun _ _ => Logged.ext rfl (by simp))
  (fun _ _ _ => Logged.ext rfl (by simp [List.append_assoc]))

end Logged
end EndpointUri
