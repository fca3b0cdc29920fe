/-!
JSON values. A number without fraction and exponent is a whole number as long as it fits sixty-four
bits; any other is a float. The members of an object are kept in the order of their keys, each key
once.
-/
namespace ChatClient.Json

inductive Number
  | integer (n : Int)
  | float (f : Float)

inductive Value
  | null
  | bool (b : Bool)
  | number (n : Number)
  | string (s : String)
  | array (items : List Value)
  | object (members : List (String × Value))

/-- Puts a member at its place in ordered members; an earlier value of the key is replaced. -/
def insertMember (key : String) (value : Value) : List (String × Value) → List (String × Value)
  | [] => [(key, value)]
  | (k, v) :: rest =>
    if key < k then (key, value) :: (k, v) :: rest
    else if key = k then (key, value) :: rest
    else (k, v) :: insertMember key value rest

/-- The object with these members. Of two members with one key the later stays. -/
def Value.ofMembers (members : List (String × Value)) : Value :=
  .object (members.foldl (fun sorted (key, value) => insertMember key value sorted) [])

def Value.ofInt (n : Int) : Value :=
  .number (.integer n)

/-- The value of a key of an object. -/
def Value.member? (key : String) : Value → Option Value
  | .object members => (members.find? (·.1 = key)).map (·.2)
  | _ => none

end ChatClient.Json
