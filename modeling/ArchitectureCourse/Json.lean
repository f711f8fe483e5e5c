import Mathlib.Data.List.AList

/-!
# JSON values

The JSON-RPC server reads and builds `nlohmann::json` values.  This module keeps the
part of that library the server relies on: the value type, member lookup on a
`const` object (`contains`, then `operator[]`), the predicates `is_null`,
`is_object`, `is_array`, and the conversion to `std::string`, which throws
`type_error.302` on anything but a string.

An object is the list of its members in construction order, and lookup returns the
first member with the key.  Parsing and serialisation belong to the library and are
left as parameters of the session model.
-/

namespace ArchitectureCourse

/-- A JSON value.  Integers are `number_integer` and `number_unsigned`; a
floating-point number is carried as an opaque mantissa and decimal exponent, since
the server only ever copies one. -/
inductive Json where
  | null
  | bool (b : Bool)
  | int (n : Int)
  | float (mantissa exponent : Int)
  | str (s : String)
  | arr (elems : List Json)
  | obj (members : List (String × Json))
  deriving Repr, Inhabited

namespace Json

/-- `is_null()`. -/
def isNull : Json → Bool
  | null => true
  | _ => false

/-- `is_object()`. -/
def isObject : Json → Bool
  | obj _ => true
  | _ => false

/-- `is_array()`. -/
def isArray : Json → Bool
  | arr _ => true
  | _ => false

/-- The member of an object stored under `key`; nothing for a missing key or for a
value that is not an object (`find` on a `const` value). -/
def get? (key : String) : Json → Option Json
  | obj members => members.lookup key
  | _ => none

/-- `contains(key)`: false on every value that is not an object. -/
def contains (j : Json) (key : String) : Bool :=
  (j.get? key).isSome

/-- `type_name()`, which the library puts into its exception texts. -/
def typeName : Json → String
  | null => "null"
  | bool _ => "boolean"
  | int _ | float _ _ => "number"
  | str _ => "string"
  | arr _ => "array"
  | obj _ => "object"

/-- Conversion to `std::string`: the string itself, or the `what()` text of the
`type_error.302` the library throws. -/
def getString : Json → Except String String
  | str s => .ok s
  | j => .error ("[json.exception.type_error.302] type must be string, but is " ++ j.typeName)

@[simp] theorem isNull_obj (members : List (String × Json)) : (obj members).isNull = false := rfl

@[simp] theorem get?_obj (key : String) (members : List (String × Json)) :
    (obj members).get? key = members.lookup key := rfl

@[simp] theorem getString_str (s : String) : (str s).getString = .ok s := rfl

end Json

end ArchitectureCourse
