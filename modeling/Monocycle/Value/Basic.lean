import Monocycle.Text.Numeral
import Monocycle.Value.Real

/-!
# Values

The values settings files, requests and answers are made of: null, truth values, numbers, texts,
lists, and maps from names to values. The entries of a map are in order, and each name occurs
once.

## Main definitions

* `Value`: the values themselves.
* `Value.isTruthy`: whether a value counts as given; null, false, zero and everything empty do
  not.
* `Value.kindName`: what the kind of a value is called in messages.
* `Entries`: the entries of a map, with `Entries.get?` and `Entries.put`.
-/

namespace Monocycle

/-- **Value** of a setting, a request or an answer. -/
inductive Value where
  | null
  | bool (b : Bool)
  | int (i : Int)
  | real (r : Real64)
  | text (s : String)
  | list (items : List Value)
  | map (entries : List (String × Value))
  deriving Inhabited

/-- The entries of a map in order. -/
abbrev Entries := List (String × Value)

namespace Entries

/-- The value of a name. -/
def get? (entries : Entries) (name : String) : Option Value :=
  entries.lookup name

/-- Gives a name a value, in place of the one it may have. -/
def put (entries : Entries) (name : String) (v : Value) : Entries :=
  match entries with
  | [] => [(name, v)]
  | (other, known) :: rest =>
    if other = name then (name, v) :: rest else (other, known) :: put rest name v

/-- All entries of `given` put over those of `base`. -/
def override (base given : Entries) : Entries :=
  given.foldl (fun entries entry => entries.put entry.1 entry.2) base

end Entries

namespace Value

/-- Whether a value counts as given. -/
def isTruthy : Value → Bool
  | null => false
  | bool b => b
  | int i => i != 0
  | real r => !r.isZero
  | text s => !s.isEmpty
  | list items => !items.isEmpty
  | map entries => !entries.isEmpty

/-- What the kind of a value is called in messages. -/
def kindName : Value → String
  | null => "NoneType"
  | bool _ => "bool"
  | int _ => "int"
  | real _ => "float"
  | text _ => "str"
  | list _ => "list"
  | map _ => "dict"

/-- The integer a value is; a truth value counts as 0 or 1. -/
def int? : Value → Option Int
  | int i => some i
  | bool b => some (if b then 1 else 0)
  | null | real _ | text _ | list _ | map _ => none

/-- A value that may be missing; what is missing is null. -/
def ofOption {α : Type} (f : α → Value) : Option α → Value
  | some a => f a
  | none => null

/-- A text as a value. -/
def ofText (t : Text) : Value :=
  text (String.ofList t)

end Value

end Monocycle
