import RestCommSdk.CliInterface.SofiaReply

/-!
# `RestCommSdk.Push.Objects`: objects of any class

What `NSUserDefaults`, an archive or an answer of a server holds has a class that no one has
checked. This is about the messages that the push registration sends to such objects. A receiver
may be `nil`, which answers everything with zero; a receiver that does not know the message throws
(`none`).
-/

set_option autoImplicit false

namespace RestCommSdk.Push

open RestCommSdk.CliInterface (CString isSpace)

/-- An object of one of the classes of JSON and of property lists. -/
inductive Object where
  | null
  | bool (b : Bool)
  | number (mantissa exponent : Int)
  | string (text : CString)
  | data (bytes : CString)
  | date (seconds : Int)
  | array (elements : List Object)
  | dictionary (members : List (CString × Object))
  deriving Repr

namespace Object

mutual
/-- `NSUserDefaults` takes the object. -/
def isPropertyList : Object → Bool
  | .null => false
  | .bool _ | .number .. | .string _ | .data _ | .date _ => true
  | .array elements => arePropertyLists elements
  | .dictionary members => holdPropertyLists members

/-- Elements of an array. -/
def arePropertyLists : List Object → Bool
  | [] => true
  | element :: elements => element.isPropertyList && arePropertyLists elements

/-- Members of a dictionary. -/
def holdPropertyLists : List (CString × Object) → Bool
  | [] => true
  | (_, value) :: members => value.isPropertyList && holdPropertyLists members
end

mutual
/-- `NSJSONSerialization` writes the object. -/
def isJSON : Object → Bool
  | .null | .bool _ | .number .. | .string _ => true
  | .data _ | .date _ => false
  | .array elements => areJSON elements
  | .dictionary members => holdJSON members

/-- Elements of an array. -/
def areJSON : List Object → Bool
  | [] => true
  | element :: elements => element.isJSON && areJSON elements

/-- Members of a dictionary. -/
def holdJSON : List (CString × Object) → Bool
  | [] => true
  | (_, value) :: members => value.isJSON && holdJSON members
end

/-! ### Messages -/

/-- `objectForKey:` -/
def objectForKey (key : CString) : Option Object → Option (Option Object)
  | none => some none
  | some (.dictionary members) => some (members.lookup key)
  | some _ => none

/-- `isEqualToString:`. An argument that is no string is asked for its characters. -/
def isEqualToString (other : Option Object) : Option Object → Option Bool
  | none => some false
  | some (.string text) =>
    match other with
    | none => some false
    | some (.string text') => some (text = text')
    | some _ => none
  | some _ => none

/-- `boolValue` of a string: the first character behind white space, a sign and zeros. -/
def boolValueOfString (text : CString) : Bool :=
  let digits := match text.dropWhile isSpace with
    | '-' :: rest | '+' :: rest => rest
    | rest => rest
  match (digits.dropWhile (· = '0')).head? with
  | some c => c ∈ "YyTt123456789".toList
  | none => false

/-- `boolValue` -/
def boolValue : Option Object → Option Bool
  | none => some false
  | some (.bool b) => some b
  | some (.number mantissa _) => some (mantissa ≠ 0)
  | some (.string text) => some (boolValueOfString text)
  | some _ => none

/-- `length` -/
def length : Object → Option Nat
  | .string text => some text.length
  | .data bytes => some bytes.length
  | _ => none

/-- What is read off an object as an array: a dictionary knows `count`, but no index. -/
def elements : Object → Option (List Object)
  | .array elements => some elements
  | .dictionary [] => some []
  | _ => none

/-- The loop over an array: the first element that the test, which may throw, says yes to. -/
def firstMatch (test : Object → Option Bool) : List Object → Option (Option Object)
  | [] => some none
  | element :: elements => do
    if ← test element then return some element
    else firstMatch test elements

end Object

end RestCommSdk.Push
