import RestCommSdk.CliInterface.SofiaReply

/-!
# `RestCommSdk.Media.PreferredCodec`: the preferred video codec of an SDP

`descriptionForDescription:preferredVideoCodec:` of `MediaWebRTC.m`. It looks through the lines of
the SDP for the video section and for the payload type of the codec, and moves this type to the
front of the list of the section.

`RegularExpressions` stands for `NSRegularExpression`, which is not part of the sources.
-/

set_option autoImplicit false

namespace RestCommSdk.Media

open RestCommSdk.CliInterface (CString)

/-- `RTCSdpType`, for the two kinds that come up. -/
inductive RTCSdpType where
  | offer
  | answer
  deriving DecidableEq, Repr

/-- `RTCSessionDescription` -/
structure RTCSessionDescription where
  type : RTCSdpType
  sdp : CString
  deriving DecidableEq, Repr

/-! ### The lines of the payload types -/

/-- The pattern of an `a=rtpmap:` line of the codec, with the name as it is given. -/
def rtpMapPattern (codec : CString) : CString :=
  "^a=rtpmap:(\\d+) ".toList ++ codec ++ "(/\\d+)+[\r]?$".toList

/-- `NSRegularExpression`. A match may leave out the first group, when the name of the codec has
an alternative of its own; the group takes digits, where it takes something. -/
structure RegularExpressions where
  /-- The first group of the first match of a pattern in a text. There is none in a text
  without a match, nor for a pattern that is no regular expression. -/
  firstMatchInString : CString → CString → Option (Option CString)
  digits : ∀ {codec line pt : CString},
    firstMatchInString (rtpMapPattern codec) line = some (some pt) →
      ' ' ∉ pt ∧ '\r' ∉ pt ∧ '\n' ∉ pt

/-! ### The lines that are looked at -/

/-- `mLineIndex`, without a value for `-1`, and `codecRtpMap`. -/
structure Lookup where
  mLineIndex : Option Nat := none
  codecRtpMap : Option CString := none
  deriving DecidableEq, Repr

/-- `hasPrefix:@"m=video"` -/
def isVideoLine (line : CString) : Bool := "m=video".toList.isPrefixOf line

/-- One line. `substringWithRange:` throws for a group without a range. -/
def lookAt (regex : CString → Option (Option CString)) (i : Nat) (line : CString)
    (found : Lookup) : Option Lookup :=
  if isVideoLine line then some { found with mLineIndex := some i }
  else
    match regex line with
    | some (some pt) => some { found with codecRtpMap := some pt }
    | some none => none
    | none => some found

/-- The loop, from the line `i` on. -/
def lookThrough (regex : CString → Option (Option CString)) (i : Nat) :
    List CString → Lookup → Option Lookup
  | [], found => some found
  | line :: lines, found =>
    if found.mLineIndex.isSome && found.codecRtpMap.isSome then some found
    else (lookAt regex i line found).bind (lookThrough regex (i + 1) lines)

/-! ### The line of the video section -/

/-- `newMLineParts` -/
def newMLineParts (codecRtpMap : CString) (origMLineParts : List CString) : List CString :=
  origMLineParts.take 3 ++ codecRtpMap :: (origMLineParts.drop 3).filter (· ≠ codecRtpMap)

/-- The lines with the new line of the video section. A list of three fields or less is no
media description. -/
def mangled (lines : List CString) (mLineIndex : Nat) (codecRtpMap : CString) : List CString :=
  let origMLineParts := (lines.getD mLineIndex []).splitOn ' '
  if 3 < origMLineParts.length then
    lines.set mLineIndex ([' '].intercalate (newMLineParts codecRtpMap origMLineParts))
  else lines

/-- `descriptionForDescription:preferredVideoCodec:` -/
def descriptionForDescription (engine : RegularExpressions) (description : RTCSessionDescription)
    (codec : CString) : Option RTCSessionDescription :=
  let lines := description.sdp.splitOn '\n'
  let regex := engine.firstMatchInString (rtpMapPattern codec)
  (lookThrough regex 0 lines {}).map fun found =>
    match found.mLineIndex, found.codecRtpMap with
    | some mLineIndex, some codecRtpMap =>
      { description with sdp := ['\n'].intercalate (mangled lines mLineIndex codecRtpMap) }
    | _, _ => description

end RestCommSdk.Media
