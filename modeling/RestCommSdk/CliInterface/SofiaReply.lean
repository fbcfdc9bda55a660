import Mathlib.Algebra.Group.Int.Defs
import RestCommSdk.Lib.Framing
import RestCommSdk.Lib.Decimal
import RestCommSdk.Lib.Utf8

/-!
# `RestCommSdk.CliInterface.SofiaReply`: the replies on the Sofia-to-App pipe

`struct SofiaReply` of `ssc_sip.h` and the loop of `inputCallback` (`SipManager.mm`) that
reads it back. `serialize` writes `<rc> <text>$`. `deserialize` parses the first frame
into the receiver and returns the bytes after it. `inputLoop` is the `while (1)` of
`inputCallback`: it hands the receiver to `handleSofiaInput` after every `deserialize`,
whether a frame was found or not.

A C string is a list of `Char`, one per byte. A string of the App is the list of the bytes of its
UTF-8 form, and `stringWithUTF8String` makes it from a C string.
-/

set_option autoImplicit false

namespace RestCommSdk.CliInterface

open RestCommSdk.Lib

/-- The bytes of a C string before the closing NUL, one `Char` per byte. -/
abbrev CString := List Char

/-- `stringWithUTF8String:`, which `stringWithCString:encoding:` and `@(…)` are for the same
encoding: bytes that are not UTF-8 make `nil`. -/
def stringWithUTF8String (bytes : CString) : Option CString :=
  if decodes bytes then some bytes else none

/-- A string is made of bytes that decode. -/
theorem stringWithUTF8String_eq_some_iff {bytes s : CString} :
    stringWithUTF8String bytes = some s ↔ decodes bytes = true ∧ bytes = s := by
  rw [stringWithUTF8String, Option.ite_none_right_eq_some, Option.some.injEq]

/-- What `%s` and `%@` print: a missing string has a text of its own. -/
def format (o : Option CString) : CString := o.getD "(null)".toList

/-- `isspace` in the C locale. -/
def isSpace (c : Char) : Bool :=
  c = ' ' || c = '\t' || c = '\n' || c = '\x0b' || c = '\x0c' || c = '\r'

/-- `std::getline(is, token, delim)` on the unread bytes of a string stream: the token and
what stays unread, or `none` when nothing is left to extract. The delimiter is consumed. -/
def getline (delim : Char) : CString → Option (CString × CString)
  | [] => none
  | is => some (is.takeWhile (· ≠ delim), (is.dropWhile (· ≠ delim)).drop 1)

/-- The conversion of a scanned number to `int`: out of range values stick to the ends. -/
def clampInt32 (i : Int) : Int32 :=
  Int32.ofInt (max (-2 ^ 31) (min i (2 ^ 31 - 1)))

/-- `istringstream(token) >> rc`. White space is skipped first. When nothing follows, the
extraction does not start and `rc` keeps its value; when no digits follow, it becomes `0`. -/
def extractInt (rc : Int32) (token : CString) : Int32 :=
  match token.dropWhile isSpace with
  | [] => rc
  | s => clampInt32 (scanInt s)

/-- `struct SofiaReply`. The default value is what the constructor without arguments sets. -/
structure SofiaReply where
  rc : Int32 := 0
  text : CString := []
  deriving DecidableEq, Repr

namespace SofiaReply

/-- `SofiaReply::Serialize`. -/
def serialize (reply : SofiaReply) : CString :=
  printInt reply.rc.toInt ++ ' ' :: (reply.text ++ ['$'])

/-- `SofiaReply::DeserializeSingle`. The loop over `getline` sets `rc` from the first token,
which ends at a space, and `text` from the second, which ends at a `$`. Later tokens are
read and dropped. A field whose token is missing keeps its value. -/
def deserializeSingle (reply : SofiaReply) (serialized : CString) : SofiaReply :=
  match getline ' ' serialized with
  | none => reply
  | some (token, is) =>
    let reply := { reply with rc := extractInt reply.rc token }
    match getline '$' is with
    | none => reply
    | some (token, _) => { reply with text := token }

/-- `SofiaReply::Deserialize`. The receiver after the call, and the returned string. Without
a `$` the receiver is left as it was and the empty string is returned. -/
def deserialize (reply : SofiaReply) (serialized : CString) : SofiaReply × CString :=
  match serialized.idxOf? '$' with
  | some found =>
    (reply.deserializeSingle (serialized.take (found + 1)), serialized.drop (found + 1))
  | none => (reply, [])

/-- `Deserialize` returns a shorter string whenever it returns anything. -/
theorem deserialize_lt (reply : SofiaReply) (s : CString) (h : (reply.deserialize s).2 ≠ []) :
    (reply.deserialize s).2.length < s.length := by
  unfold deserialize at h ⊢
  split
  · rename_i found hf
    obtain ⟨hlt, -⟩ := List.idxOf?_eq_some_iff.mp hf
    simp only [List.length_drop]
    omega
  · rename_i hf
    simp [hf] at h

end SofiaReply

/-- The loop of `inputCallback` on the bytes of one read: the values of `reply` that are
passed to `handleSofiaInput`, in order. -/
def inputLoop (reply : SofiaReply) (incomingMsg : CString) : List SofiaReply :=
  let next := reply.deserialize incomingMsg
  if _h : next.2 = [] then [next.1] else next.1 :: inputLoop next.1 next.2
termination_by incomingMsg.length
decreasing_by exact SofiaReply.deserialize_lt reply incomingMsg _h

/-- `inputCallback` on the bytes of one read. Every callback starts from a fresh reply. -/
def inputCallback (incomingMsg : CString) : List SofiaReply :=
  inputLoop {} incomingMsg

/-- The replies that the callbacks of successive reads pass to `handleSofiaInput`. -/
def dispatched (reads : List CString) : List SofiaReply :=
  reads.flatMap inputCallback

end RestCommSdk.CliInterface
