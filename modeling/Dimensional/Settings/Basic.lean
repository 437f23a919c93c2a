/-!
Settings: untyped trees, as configuration files hold them. A source of settings is laid over another
one table by table, and the keys of its tables are taken in small letters. Tables inside lists are
taken as they are.
-/

set_option autoImplicit false

namespace Dimensional.Settings

inductive Setting where
  | nothing
  | flag (value : Bool)
  | integer (value : Int)
  | number (value : Float)
  | text (value : String)
  | list (items : List Setting)
  | table (fields : List (String × Setting))

/-- Integers are signed and have 64 bits: this is the first number above them. -/
def integerBound : Nat := 0x8000000000000000

/-- Small letters. Outside ASCII only the Kelvin sign has one that may stand in a path. -/
def lower (c : Char) : Char := if c.toNat = 0x212A then 'k' else c.toLower

/-- The key under which a field is found. -/
def lowerKey (key : String) : String := String.ofList (key.toList.map lower)

/-- The fields of a table, each key once. -/
abbrev Fields := List (String × Setting)

namespace Setting

/-- Replaces the field of a key, or adds it at the end. -/
def setField (key : String) (value : Setting) : Fields → Fields
  | [] => [(key, value)]
  | (known, old) :: rest =>
    if known = key then (known, value) :: rest else (known, old) :: setField key value rest

/-- The fields of a table; anything else counts as an empty table. -/
def fields : Setting → Fields
  | table fields => fields
  | _ => []

/-- The items of a list; anything else counts as an empty list. -/
def items : Setting → List Setting
  | list items => items
  | _ => []

mutual

/-- What a value becomes when `incoming` is laid over it: tables are merged, all else replaced. -/
def overlay : Setting → Option Setting → Setting
  | table incoming, existing => overlayFields incoming (existing.getD (table []))
  | incoming, _ => incoming

/-- Lays fields over a value one by one; without any, the value stays as it is. -/
def overlayFields : Fields → Setting → Setting
  | [], target => target
  | (key, value) :: rest, target =>
    overlayFields rest
      (table (setField (lowerKey key) (overlay value (target.fields.lookup (lowerKey key)))
        target.fields))

end

@[simp] theorem lookup_setField_self (key : String) (value : Setting) (fields : Fields) :
    (setField key value fields).lookup key = some value := by
  induction fields with
  | nil => simp [setField]
  | cons entry rest ih =>
    rcases entry with ⟨known, old⟩
    unfold setField
    split
    · next equal => simp [equal]
    · next different =>
      have apart : (key == known) = false := by simpa using Ne.symm different
      rw [List.lookup_cons, apart]
      exact ih

end Setting

end Dimensional.Settings
