/-
JSON values. Members keep the order in which they were written and may
repeat a key; what a repeated key means is for the reader of a value to
say. Numbers are exact: an integer within 64 bits, or a decimal fraction.
-/
namespace FluxComposer.Json

/-- A number. Integers are those of 64 bits, signed or not. Any other
number is `digits · 10 ^ exponent` with its sign, where the digits are the
leading ones that 64 bits hold. -/
inductive Number where
  | integer (value : Int)
  | decimal (negative : Bool) (digits : Nat) (exponent : Int)
  deriving DecidableEq, Repr

end FluxComposer.Json

namespace FluxComposer

/-- A JSON value. -/
inductive Json where
  | null
  | bool (value : Bool)
  | number (value : Json.Number)
  | string (value : String)
  | array (items : List Json)
  | object (members : List (String × Json))
  deriving BEq, Repr, Inhabited

namespace Json

/-- The number that a natural number is. -/
def nat (n : Nat) : Json := .number (.integer n)

/-- The number that an integer is. -/
def int (n : Int) : Json := .number (.integer n)

/-- An array of strings. -/
def strings (values : List String) : Json := .array (values.map .string)

/-- A value that may be absent, written as null. -/
def orNull (value : Option Json) : Json := value.getD .null

/-- A string that may be absent, written as null. -/
def stringOrNull (value : Option String) : Json := orNull (value.map .string)

/-- The value of the last member of an object that has a given key. -/
def get? (key : String) : Json → Option Json
  | .object members => (members.reverse.find? (·.1 = key)).map (·.2)
  | _ => none

/-- The member that a key is given again takes the place of the earlier
one; members stand in the order of their keys. -/
def insertMember (key : String) (value : Json) :
    List (String × Json) → List (String × Json)
  | [] => [(key, value)]
  | (k, v) :: rest =>
    if key < k then (key, value) :: (k, v) :: rest
    else if key = k then (key, value) :: rest
    else (k, v) :: insertMember key value rest

mutual

/-- The value with the members of each object in the order of their keys
and no key twice; the last of several values counts. -/
def sorted : Json → Json
  | .array items => .array (sortedItems items)
  | .object members => .object (sortedMembers members [])
  | j => j

def sortedItems : List Json → List Json
  | [] => []
  | x :: xs => sorted x :: sortedItems xs

/-- Sorts members into those that are sorted already. -/
def sortedMembers : List (String × Json) → List (String × Json) →
    List (String × Json)
  | [], done => done
  | (k, v) :: ms, done => sortedMembers ms (insertMember k (sorted v) done)

end

end Json
end FluxComposer
