import PolyCommit.Field.Bn254
import PolyCommit.Text.Basic
import PolyCommit.Decimal.Binary64

/-!
# Values

What callers hand in before it has been checked: a JSON value, or a scalar. An object keeps its
fields in the order in which their names first appeared, and no name twice.
-/

namespace PolyCommit

/-- A JSON value or a scalar. -/
inductive Value
  | null
  | bool (b : Bool)
  | int (k : Int)
  | float (x : Binary64)
  | str (s : Text)
  | list (xs : List Value)
  | object (fields : List (Text × Value))
  | scalar (x : Fr)

/-- The kinds of values, as error texts name them. -/
inductive Kind
  | null
  | bool
  | int
  | float
  | str
  | list
  | object
  | scalar
  deriving DecidableEq

/-- The name of a kind in error texts. -/
def Kind.name : Kind → String
  | null => "NoneType"
  | bool => "bool"
  | int => "int"
  | float => "float"
  | str => "str"
  | list => "list"
  | object => "dict"
  | scalar => "FR"

/-- An exact number: an integer of any size or a scalar. -/
inductive Number
  | int (k : Int)
  | scalar (x : Fr)
  deriving DecidableEq

namespace Number

/-- The integer that the number stands for; for a scalar its representative. -/
def toInt : Number → Int
  | int k => k
  | scalar x => x.val

/-- The scalar that the number stands for; an integer is reduced. -/
def toFr : Number → Fr
  | int k => Residue.ofInt k
  | scalar x => x

end Number

namespace Value

instance : Inhabited Value := ⟨null⟩

/-- The kind of a value. -/
def kind : Value → Kind
  | null => .null
  | bool _ => .bool
  | int _ => .int
  | float _ => .float
  | str _ => .str
  | list _ => .list
  | object _ => .object
  | scalar _ => .scalar

/-- The exact number that a value is: integers, truth values as zero and one, and scalars. -/
def number? : Value → Option Number
  | bool b => some (.int (if b then 1 else 0))
  | int k => some (.int k)
  | scalar x => some (.scalar x)
  | _ => none

/-- The integer that a value is; truth values are none here. -/
def integer? : Value → Option Int
  | int k => some k
  | _ => none

/-- The number of entries of a text, a list or an object. -/
def length? : Value → Option Nat
  | str s => some s.length
  | list xs => some xs.length
  | object fields => some fields.length
  | _ => none

/-- The entries of a text (its code points), a list, or an object (its names). -/
def entries? : Value → Option (List Value)
  | str s => some (s.map fun c => str [c])
  | list xs => some xs
  | object fields => some (fields.map fun field => str field.1)
  | _ => none

/-- Whether a value is empty, zero, false or null. -/
def isBlank : Value → Bool
  | null => true
  | bool b => !b
  | int k => k = 0
  | float x => x.isZero
  | str s => s.isEmpty
  | list xs => xs.isEmpty
  | object fields => fields.isEmpty
  | scalar _ => false

/-- The text value of a string. -/
def ofString (s : String) : Value := str (Text.ofString s)

/-- Fields with the value of one of them set: in its old place if the name is there, else at the
end. -/
def setField (name : Text) (v : Value) : List (Text × Value) → List (Text × Value)
  | [] => [(name, v)]
  | field :: rest =>
    if field.1 = name then (name, v) :: rest else field :: setField name v rest

/-- The value of a field. -/
def lookup (name : Text) : List (Text × Value) → Option Value
  | [] => none
  | field :: rest => if field.1 = name then some field.2 else lookup name rest

/-- A field that was set is found. -/
theorem lookup_setField (name : Text) (v : Value) (fields : List (Text × Value)) :
    lookup name (setField name v fields) = some v := by
  induction fields with
  | nil => simp [setField, lookup]
  | cons field rest ih =>
    rw [setField]
    split
    · simp [lookup]
    · next h => rw [lookup, if_neg h, ih]

/-- Setting a field leaves the others as they were. -/
theorem lookup_setField_of_ne {name other : Text} (h : other ≠ name) (v : Value)
    (fields : List (Text × Value)) :
    lookup other (setField name v fields) = lookup other fields := by
  induction fields with
  | nil => simp [setField, lookup, h.symm]
  | cons field rest ih =>
    rw [setField]
    split
    · next hname => simp [lookup, hname, h.symm]
    · rw [lookup, lookup, ih]

end Value

end PolyCommit
