/-! JSON values. Objects keep their members in the order of the text, repeated
keys included. The size of a number is of no interest here. -/
namespace DelegateClasses

/-- A JSON value. -/
inductive JsonValue where
  | null
  | bool (value : Bool)
  | number
  | string (text : String)
  | array (items : List JsonValue)
  | object (members : List (String × JsonValue))

/-- The value of a key. When the key is repeated, the last one counts. -/
def JsonValue.field? (members : List (String × JsonValue)) (key : String) : Option JsonValue :=
  (members.reverse.find? (·.1 == key)).map (·.2)

/-- A value of an object is smaller than its members. -/
theorem JsonValue.sizeOf_field?_lt {members : List (String × JsonValue)} {key : String}
    {value : JsonValue} (found : JsonValue.field? members key = some value) :
    sizeOf value < sizeOf members := by
  obtain ⟨pair, located, rfl⟩ := Option.map_eq_some_iff.1 found
  have member : pair ∈ members := List.mem_reverse.1 (List.mem_of_find?_eq_some located)
  have smaller := List.sizeOf_lt_of_mem member
  have : sizeOf pair = 1 + sizeOf pair.1 + sizeOf pair.2 := by cases pair; rfl
  omega

end DelegateClasses
