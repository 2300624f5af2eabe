import EndpointUri.Json.Value

/-!
Reading records out of JSON values. A record is written as an object, whose members are looked at
in key order, or as an array, whose items are the fields in their declared order.
-/
namespace EndpointUri.Json

inductive Wanted where
  | record (name : String)
  | text
  | boolean
  | path
  deriving DecidableEq, Repr

def Wanted.describe : Wanted → String
  | record name => "struct " ++ name
  | text => "a string"
  | boolean => "a boolean"
  | path => "path string"

inductive ShapeError where
  | wrongType (found : Json) (wanted : Wanted)
  | missingField (name : String)
  | tooShort (length : Nat) (record : String) (fields : Nat)
  | tooLong (length : Nat)

def ShapeError.message : ShapeError → String
  | wrongType found wanted =>
    "invalid type: " ++ found.describe ++ ", expected " ++ wanted.describe
  | missingField name => "missing field `" ++ name ++ "`"
  | tooShort length record fields =>
    "invalid length " ++ Nat.repr length ++ ", expected struct " ++ record ++ " with " ++
      Nat.repr fields ++ (if fields = 1 then " element" else " elements")
  | tooLong length => "invalid length " ++ Nat.repr length ++ ", expected fewer elements in array"

abbrev Shaped := Except ShapeError

def toText : Json → Shaped String
  | string s => .ok s
  | other => .error (.wrongType other .text)

def toBool : Json → Shaped Bool
  | bool b => .ok b
  | other => .error (.wrongType other .boolean)

def toPath : Json → Shaped String
  | string s => .ok s
  | other => .error (.wrongType other .path)

/-- A null stands for an absent value. -/
def toOptional {α : Type} (read : Json → Shaped α) : Json → Shaped (Option α)
  | null => .ok none
  | other => some <$> read other

def member? (members : List (String × Json)) (key : String) : Option Json :=
  (members.find? fun (k, _) => k == key).map Prod.snd

/-- An absent member reads as null. -/
def optionalMember {α : Type} (members : List (String × Json)) (key : String)
    (read : Json → Shaped α) : Shaped (Option α) :=
  toOptional read ((member? members key).getD null)

/-- Nothing may follow the last field. -/
def checkLength (items : List Json) (fields : Nat) : Shaped Unit :=
  if items.length ≤ fields then .ok () else .error (.tooLong items.length)

end EndpointUri.Json
