import RestCommSdk.Lib.Matches
import RestCommSdk.CliInterface.SofiaReply

/-!
# `RestCommSdk.Media.SdpCandidates`: the candidates of a remote SDP

`incomingFilterCandidatesFromSdp:` of `MediaWebRTC.m`, and the loop of
`processSignalingMessage:type:` that hands the candidates to the peer connection. The SDP is
searched twice, with two regular expressions: once for candidates and for the lines that begin a
section, and once for candidates alone, to take them out.
-/

set_option autoImplicit false

namespace RestCommSdk.Media

open RestCommSdk.Lib
open RestCommSdk.CliInterface (CString)

/-! ### The regular expressions -/

/-- The characters that a `.` of a regular expression does not match. -/
def isLineTerminator (c : Char) : Bool :=
  c = '\n' || c = '\x0b' || c = '\x0c' || c = '\r' || c = '\u0085' || c = '\u2028' || c = '\u2029'

/-- `a=(candidate.*)\r\n` at the front of a text: what the group captures, and the length. -/
def candidateFront (s : CString) : Option (CString × Nat) :=
  if "a=candidate".toList.isPrefixOf s then
    let capture := (s.drop 2).takeWhile (!isLineTerminator ·)
    if "\r\n".toList.isPrefixOf (s.drop (2 + capture.length)) then
      some (capture, 2 + capture.length + 2)
    else none
  else none

/-- A candidate has characters. -/
theorem candidateFront_pos {s capture : CString} {n : Nat}
    (h : candidateFront s = some (capture, n)) : 0 < n := by
  unfold candidateFront at h
  dsimp only at h
  split at h
  · split at h
    · cases h
      omega
    · cases h
  · cases h

/-- `removePattern` -/
def removePattern : Pattern Char CString where
  front := candidateFront
  pos := candidateFront_pos

/-- A match of `m=audio|m=video|a=(candidate.*)\r\n`. -/
inductive SdpMatch where
  | audio
  | video
  | candidate (text : CString)
  deriving DecidableEq, Repr

/-- `m=audio|m=video|a=(candidate.*)\r\n` at the front of a text. -/
def sectionFront (s : CString) : Option (SdpMatch × Nat) :=
  if "m=audio".toList.isPrefixOf s then some (.audio, 7)
  else if "m=video".toList.isPrefixOf s then some (.video, 7)
  else (candidateFront s).map fun found => (.candidate found.1, found.2)

/-- So have a section and a candidate. -/
theorem sectionFront_pos {s : CString} {found : SdpMatch} {n : Nat}
    (h : sectionFront s = some (found, n)) : 0 < n := by
  unfold sectionFront at h
  split at h
  · cases h
    omega
  · split at h
    · cases h
      omega
    · obtain ⟨capture, hfront, heq⟩ := Option.map_eq_some_iff.mp h
      cases heq
      exact candidateFront_pos hfront

/-- `pattern` -/
def pattern : Pattern Char SdpMatch where
  front := sectionFront
  pos := sectionFront_pos

/-! ### The filter -/

/-- `collectionState` -/
inductive CollectionState where
  | none
  | audio
  | video
  deriving DecidableEq, Repr

/-- The dictionary that the filter returns, with its two keys. -/
structure Candidates where
  audio : List CString := []
  video : List CString := []
  deriving DecidableEq, Repr

/-- The loop over the matches. -/
def collect (s : CollectionState × Candidates) : SdpMatch → CollectionState × Candidates
  -- "enter audio collection state"
  | .audio => (.audio, s.2)
  -- "enter audio video collection state", with the value of the other one.
  | .video => (.audio, s.2)
  | .candidate text =>
    match s.1 with
    | .audio => (s.1, { s.2 with audio := s.2.audio ++ [text] })
    | .video => (s.1, { s.2 with video := s.2.video ++ [text] })
    | .none => s

/-- `incomingFilterCandidatesFromSdp:`, with the SDP that it leaves. -/
def incomingFilterCandidatesFromSdp (sdp : CString) : CString × Candidates :=
  (removePattern.remove sdp, ((pattern.all sdp).foldl collect (.none, {})).2)

/-! ### The candidates of the peer connection -/

/-- The keys of the dictionary, which name the sections. -/
inductive Mid where
  | audio
  | video
  deriving DecidableEq, Repr

/-- The key as a text. -/
def Mid.text : Mid → CString
  | audio => "audio".toList
  | video => "video".toList

/-- `objectForKey:` -/
def Candidates.objectForKey (candidates : Candidates) : Mid → List CString
  | .audio => candidates.audio
  | .video => candidates.video

/-- `RTCIceCandidate` -/
structure RTCIceCandidate where
  sdp : CString
  sdpMLineIndex : Nat := 0
  sdpMid : CString
  deriving DecidableEq, Repr

/-- The candidates that `processSignalingMessage:type:` adds, for an order of the keys. -/
def addedCandidates (keys : List Mid) (candidates : Candidates) : List RTCIceCandidate :=
  keys.flatMap fun key =>
    (candidates.objectForKey key).map fun candidate => { sdp := candidate, sdpMid := key.text }

end RestCommSdk.Media
