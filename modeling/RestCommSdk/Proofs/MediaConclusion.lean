import RestCommSdk.Media.MediaSetUp

/-!
# `RestCommSdk.Proofs.MediaConclusion`: when the set-up of the media comes to something

A set-up should come to exactly one thing: the signalling starts, or the delegate gets an error.
`concludesOnce_iff` says when it does. Otherwise it comes to nothing, for version 3 of the
service without a `turn-url`, or raises an exception: for a URL that is none, for an answer that
is not made as the code takes for granted, for an error text with a `%` in it, for an error of the
transport that a connection hears of, and where the signalling itself cannot start.
-/

set_option autoImplicit false

namespace RestCommSdk.Proofs

open RestCommSdk.CliInterface (CString)

/-! ### The property and the condition -/

/-- Exactly one conclusion, and no exception. -/
def ConcludesOnce (conclusions : Option (List Conclusion)) : Prop :=
  ∃ conclusion, conclusions = some [conclusion]

/-- An entry with a URL, whose user name is a text if it has one. -/
def WellFormedEntry (entry : NSObject) : Prop :=
  ∃ members, entry = .dictionary members ∧
    (∃ url, members.lookup "url".toList = some (.string url)) ∧
    ∀ username ∈ members.lookup "username".toList, ∃ s, username = .string s

/-- A list of such entries. Nothing at all will do, and so does an empty dictionary. -/
def WellFormedServers : Option NSObject → Prop
  | none => True
  | some (.array entries) => ∀ entry ∈ entries, WellFormedEntry entry
  | some (.dictionary members) => members = []
  | some _ => False

/-- There is no such member, or it is a dictionary. -/
def NilOrDictionary (member : Option NSObject) : Prop :=
  ∀ object ∈ member, ∃ members, object = .dictionary members

/-- The member of a dictionary that may be missing. -/
def memberOf (object : Option NSObject) (key : String) : Option NSObject :=
  match object with
  | some (.dictionary members) => members.lookup key.toList
  | _ => none

section Conditions
variable (env : MediaEnv) (call : SetUpCall)

/-- WebRTC takes the servers, and a callee gets its peer connection and has an offer. -/
def SignalingStarts (servers : List RTCIceServer) : Prop :=
  ∃ made, env.peerConnection servers = some made ∧
    (call.initiator = true ∨ made = true ∧ call.sdp.isSome)

/-- A list of servers that the signalling can start with. -/
def StartsWith (own : List RTCIceServer) (servers : Option NSObject) : Prop :=
  WellFormedServers servers ∧
    ∀ turnServers ∈ serverFromXirsysArray servers, SignalingStarts env call (own ++ turnServers)

/-- The answer is an object. With a good status its members are what they should be, and with a
bad one the text about it holds no `%`. -/
def UsableAnswer (iceConfigType : ICEConfigType) (answer : NSObject) : Prop :=
  ∃ members, answer = .dictionary members ∧
    if statusIsOk (members.lookup "s".toList) then
      let d := members.lookup "d".toList
      let v := members.lookup "v".toList
      NilOrDictionary d ∧ (iceConfigType = .xirsysV3 → NilOrDictionary v) ∧
        StartsWith env call []
          (memberOf (if iceConfigType = .xirsysV3 then v else d) "iceServers")
    else readsArguments (retrievingError env (members.lookup "e".toList)) = false

/-- An error with a text that holds no `%`, which no connection hears of or which can be written as
JSON; bytes that are not JSON; or such an answer. -/
def UsableResponse (iceConfigType : ICEConfigType) : TurnResponse → Prop
  | .error error => readsArguments error.localizedDescription = false ∧
    (call.hasDelegate = true → error.userInfoIsJSON = true)
  | .data bytes => ∀ answer ∈ env.jsonObject bytes, UsableAnswer env call iceConfigType answer

/-- The parameters and the outcome of the request allow a conclusion. -/
def Conclusive (params : SetUpParams) (response : TurnResponse) : Prop :=
  if params.turnEnabled.getD false then
    match params.configType with
    | .xirsysV2 =>
      env.validURL params.turnRequestURLv2 = true ∧ UsableResponse env call .xirsysV2 response
    | .xirsysV3 =>
      ∃ turnUrl ∈ params.turnUrl, turnUrl ≠ [] ∧
        env.validURL (params.turnRequestURLv3 turnUrl) = true ∧
          UsableResponse env call .xirsysV3 response
    | .custom => StartsWith env call [defaultSTUNServer] params.iceServers
  else SignalingStarts env call [defaultSTUNServer]

end Conditions

/-! ### Servers -/

/-- A server is made of an entry with the members it needs. -/
theorem serverFromXirsys_isSome_iff (entry : NSObject) :
    (serverFromXirsys entry).isSome ↔ WellFormedEntry entry := by
  cases entry with
  | dictionary members =>
    have hentry : WellFormedEntry (.dictionary members) ↔
        (∃ url, members.lookup "url".toList = some (.string url)) ∧
          ∀ username ∈ members.lookup "username".toList, ∃ s, username = .string s := by
      constructor
      · rintro ⟨members', heq, hrest⟩
        cases heq
        exact hrest
      · intro hrest
        exact ⟨members, rfl, hrest⟩
    rw [hentry]
    dsimp only [serverFromXirsys]
    -- The URL is needed, and it and the name must be texts.
    cases hurl : members.lookup "url".toList with
    | none => simp
    | some url =>
      cases husername : members.lookup "username".toList with
      | none => cases url <;> simp [NSObject.utf8String]
      | some username => cases url <;> cases username <;> simp [NSObject.utf8String]
  | _ =>
    -- An entry that is no dictionary raises.
    refine iff_of_false (by simp [serverFromXirsys]) ?_
    rintro ⟨members, heq, -⟩
    cases heq

/-- The loop ends well when each of its entries is as it should be. -/
theorem serversFromXirsys_isSome_iff (entries : List NSObject) :
    (serversFromXirsys entries).isSome ↔ ∀ entry ∈ entries, WellFormedEntry entry := by
  induction entries with
  | nil => simp [serversFromXirsys]
  | cons entry entries ih =>
    rw [List.forall_mem_cons, ← ih, ← serverFromXirsys_isSome_iff, serversFromXirsys]
    cases serverFromXirsys entry <;> cases serversFromXirsys entries <;> simp

/-- The servers are made of `nil`, or of an array of such entries. -/
theorem serverFromXirsysArray_isSome_iff (array : Option NSObject) :
    (serverFromXirsysArray array).isSome ↔ WellFormedServers array := by
  cases array with
  | none => simp [serverFromXirsysArray, WellFormedServers]
  | some object =>
    cases object with
    | array entries => exact serversFromXirsys_isSome_iff entries
    | dictionary members => cases members <;> simp [serverFromXirsysArray, WellFormedServers]
    | _ => simp [serverFromXirsysArray, WellFormedServers]

/-! ### The steps of the set-up -/

section Steps
variable {env : MediaEnv} {call : SetUpCall}

/-- The start of signaling concludes once, unless it raises an exception. -/
theorem concludesOnce_startSignaling_iff (servers : List RTCIceServer) :
    ConcludesOnce (startSignaling env call servers) ↔ SignalingStarts env call servers := by
  unfold ConcludesOnce startSignaling SignalingStarts
  cases env.peerConnection servers with
  | none => simp
  | some made => cases call.initiator <;> cases made <;> cases call.sdp <;> simp

/-- The servers of a list, and the signalling with them. -/
theorem concludesOnce_bind_servers_iff (own : List RTCIceServer) (array : Option NSObject) :
    ConcludesOnce ((serverFromXirsysArray array).bind fun servers =>
        startSignaling env call (own ++ servers)) ↔
      StartsWith env call own array := by
  unfold StartsWith
  rw [← serverFromXirsysArray_isSome_iff]
  cases serverFromXirsysArray array with
  | none => simp [ConcludesOnce]
  | some servers =>
    rw [Option.bind_some, concludesOnce_startSignaling_iff]
    simp

/-- A dictionary answers the member. -/
theorem objectForKey_dictionary (members : List (CString × NSObject)) (key : String) :
    NSObject.objectForKey (some (.dictionary members)) key = some (members.lookup key.toList) :=
  rfl

/-- `nil` and dictionaries understand `objectForKey:`. -/
theorem objectForKey_isSome_iff (object : Option NSObject) (key : String) :
    (NSObject.objectForKey object key).isSome ↔ NilOrDictionary object := by
  cases object with
  | none => simp [NSObject.objectForKey, NilOrDictionary]
  | some object => cases object <;> simp [NSObject.objectForKey, NilOrDictionary]

/-- A message for a member answers it, unless it raises an exception. -/
theorem objectForKey_eq {object : Option NSObject} (h : NilOrDictionary object) (key : String) :
    NSObject.objectForKey object key = some (memberOf object key) := by
  cases object with
  | none => rfl
  | some object =>
    obtain ⟨members, rfl⟩ := h object rfl
    rfl

/-- Nothing else does. -/
theorem objectForKey_eq_none {object : Option NSObject} (h : ¬ NilOrDictionary object)
    (key : String) : NSObject.objectForKey object key = none := by
  rw [← objectForKey_isSome_iff object key] at h
  simpa using h

/-- An answer with a good status. -/
theorem concludesOnce_turnServers_iff (iceConfigType : ICEConfigType)
    (members : List (CString × NSObject)) :
    ConcludesOnce ((turnServers iceConfigType (.dictionary members)).bind
        fun servers => startSignaling env call servers) ↔
      NilOrDictionary (members.lookup "d".toList) ∧
        (iceConfigType = .xirsysV3 → NilOrDictionary (members.lookup "v".toList)) ∧
          StartsWith env call [] (memberOf (if iceConfigType = .xirsysV3 then
            members.lookup "v".toList else members.lookup "d".toList) "iceServers") := by
  unfold turnServers
  rw [objectForKey_dictionary, objectForKey_dictionary, Option.bind_eq_bind, Option.bind_some]
  by_cases hd : NilOrDictionary (members.lookup "d".toList)
  · rw [objectForKey_eq hd]
    -- Version 3 keeps the servers under `v`, the others under `d`.
    by_cases hv3 : iceConfigType = .xirsysV3
    · rw [if_pos hv3]
      by_cases hv : NilOrDictionary (members.lookup "v".toList)
      · simp only [Option.bind_some, if_pos hv3, objectForKey_eq hv]
        refine (concludesOnce_bind_servers_iff [] _).trans ?_
        exact ⟨fun h => ⟨hd, fun _ => hv, h⟩, fun h => h.2.2⟩
      · simp only [Option.bind_some, if_pos hv3, objectForKey_eq_none hv,
          Option.bind_none]
        -- The member `v` is no dictionary, and asking it raises.
        exact iff_of_false (by simp [ConcludesOnce]) fun h => hv (h.2.1 hv3)
    · rw [if_neg hv3]
      simp only [Option.bind_some, if_neg hv3]
      refine (concludesOnce_bind_servers_iff [] _).trans ?_
      exact ⟨fun h => ⟨hd, fun h3 => absurd h3 hv3, h⟩, fun h => h.2.2⟩
  · rw [objectForKey_eq_none hd]
    -- So does the member `d`.
    exact iff_of_false (by simp [ConcludesOnce]) fun h => hd h.1

/-- The block of the request, for an error. -/
theorem concludesOnce_responseBlock_error_iff (error : TurnError) :
    ConcludesOnce (responseBlock env call (.error error)) ↔
      readsArguments error.localizedDescription = false ∧
        (call.hasDelegate = true → error.userInfoIsJSON = true) := by
  cases hreads : readsArguments error.localizedDescription <;>
    cases hdelegate : call.hasDelegate <;> cases hjson : error.userInfoIsJSON <;>
      simp [responseBlock, didError, hreads, hdelegate, hjson, ConcludesOnce]

/-- And for one that the client has made. -/
theorem concludesOnce_responseBlock_ofText_iff (text : CString) :
    ConcludesOnce (responseBlock env call (.error (.ofText text))) ↔
      readsArguments text = false := by
  rw [concludesOnce_responseBlock_error_iff]
  exact and_iff_left fun _ => rfl

/-- The text of this error is fixed. -/
theorem readsArguments_parsingError : readsArguments parsingError = false := by decide

/-- An answer of the service. -/
theorem concludesOnce_response_iff (iceConfigType : ICEConfigType) (response : TurnResponse) :
    ConcludesOnce ((requestServers env iceConfigType response).bind (responseBlock env call)) ↔
      UsableResponse env call iceConfigType response := by
  cases response with
  | error error => exact @concludesOnce_responseBlock_error_iff env call error
  | data bytes =>
    cases hjson : env.jsonObject bytes with
    | none =>
      simp only [requestServers, hjson, Option.bind_some, UsableResponse]
      rw [concludesOnce_responseBlock_ofText_iff]
      -- The parsing error has a text of the code's own, which is logged as it is.
      refine iff_of_true readsArguments_parsingError fun answer hanswer => ?_
      cases hanswer
    | some answer =>
      have husable : UsableResponse env call iceConfigType (.data bytes) ↔
          UsableAnswer env call iceConfigType answer := by
        simp [UsableResponse, hjson]
      rw [husable]
      simp only [requestServers, hjson]
      cases answer with
      | dictionary members =>
        have hanswer : ∀ p : List (CString × NSObject) → Prop,
            (∃ members', NSObject.dictionary members = .dictionary members' ∧ p members') ↔
              p members := by
          intro p
          constructor
          · rintro ⟨members', heq, hp⟩
            cases heq
            exact hp
          · intro hp
            exact ⟨members, rfl, hp⟩
        rw [UsableAnswer, hanswer, objectForKey_dictionary, Option.bind_eq_bind, Option.bind_some]
        -- The server says whether it is well, and hands out the servers only then.
        by_cases hok : statusIsOk (members.lookup "s".toList) = true
        · rw [if_pos hok, if_pos hok]
          refine Iff.trans ?_ (concludesOnce_turnServers_iff iceConfigType members)
          cases turnServers iceConfigType (.dictionary members) <;> exact Iff.rfl
        · rw [if_neg hok, if_neg hok]
          exact @concludesOnce_responseBlock_ofText_iff env call (retrievingError env _)
      | _ =>
        -- An answer that is no dictionary raises.
        refine iff_of_false (by simp [NSObject.objectForKey, ConcludesOnce]) ?_
        rintro ⟨members, heq, -⟩
        cases heq

/-- A request to a URL. -/
theorem concludesOnce_request_iff (iceConfigType : ICEConfigType) (url : CString)
    (response : TurnResponse) :
    ConcludesOnce (request env call iceConfigType url response) ↔
      env.validURL url = true ∧ UsableResponse env call iceConfigType response := by
  rw [← concludesOnce_response_iff]
  cases hurl : env.validURL url with
  | false => simp [request, hurl, ConcludesOnce]
  | true =>
    rw [request, if_pos hurl]
    exact (and_iff_right rfl).symm

end Steps

/-- The test of the `turn-url`: there is one, and it is not empty. -/
theorem filter_turnUrl_cases (turnUrl : Option CString) :
    (turnUrl.filter (· ≠ []) = none ∧ ∀ url ∈ turnUrl, url = []) ∨
      ∃ url, turnUrl = some url ∧ url ≠ [] ∧ turnUrl.filter (· ≠ []) = some url := by
  cases turnUrl with
  | none => exact Or.inl ⟨rfl, fun url hurl => nomatch hurl⟩
  | some url =>
    by_cases hempty : url = []
    · subst hempty
      exact Or.inl ⟨by simp, fun url hurl => (Option.some.inj hurl).symm⟩
    · exact Or.inr ⟨url, rfl, hempty, by simp [hempty]⟩

/-- The set-up comes to exactly one conclusion exactly when the parameters and the outcome of the
request allow one. -/
theorem concludesOnce_iff (env : MediaEnv) (params : SetUpParams) (call : SetUpCall)
    (response : TurnResponse) :
    ConcludesOnce (setUp env params call response) ↔ Conclusive env call params response := by
  unfold setUp Conclusive
  by_cases hturn : params.turnEnabled.getD false = true
  · rw [if_pos hturn, if_pos hturn]
    cases params.configType with
    | xirsysV2 => exact concludesOnce_request_iff .xirsysV2 params.turnRequestURLv2 response
    | xirsysV3 =>
      -- Without a URL there is neither a request nor a conclusion.
      dsimp only
      obtain ⟨hfilter, hempty⟩ | ⟨turnUrl, hurl, hne, hfilter⟩ :=
        filter_turnUrl_cases params.turnUrl
      · rw [hfilter]
        refine iff_of_false (by simp [ConcludesOnce]) ?_
        rintro ⟨url, hmem, hne, -⟩
        exact hne (hempty url hmem)
      · rw [hfilter]
        refine (concludesOnce_request_iff .xirsysV3 _ response).trans ?_
        simp [hurl, hne]
    | custom => exact concludesOnce_bind_servers_iff [defaultSTUNServer] params.iceServers
  · rw [if_neg hturn, if_neg hturn]
    exact concludesOnce_startSignaling_iff [defaultSTUNServer]

/-- A service whose answers are these bytes, read as this object. -/
def answeringService (answer : NSObject) : MediaEnv where
  validURL _ := true
  jsonObject _ := some answer
  description _ := []
  peerConnection _ := some true

/-- The answer of a service that lists a server without a URL. -/
def serverWithoutURL : NSObject :=
  .dictionary [("s".toList, .string "ok".toList),
    ("d".toList, .dictionary [("iceServers".toList,
      .array [.dictionary [("username".toList, .string "u".toList)]])])]

/-- Version 3 of the service without a URL comes to nothing, and a server without a URL ends in
an exception, as does a request that is not answered. -/
theorem setUp_without_conclusion :
    setUp (answeringService .null)
        { turnEnabled := some true, iceConfigType := some 1 } ⟨none, true, true⟩
        (.data []) = some [] ∧
      setUp (answeringService serverWithoutURL)
        { turnEnabled := some true, turnUrl := some "https://h/ice".toList } ⟨none, true, true⟩
        (.data []) = none ∧
      setUp (answeringService .null)
        { turnEnabled := some true, turnUrl := some "https://h/ice".toList } ⟨none, true, true⟩
        (.error ⟨"The request timed out.".toList, false⟩) = none ∧
      ¬ ConcludesOnce (some []) ∧ ¬ ConcludesOnce none :=
  ⟨rfl, rfl, rfl, by simp [ConcludesOnce], by simp [ConcludesOnce]⟩

/-! ### The set-up and the session -/

/-- The parameters of the App, as the set-up reads them. -/
def SetUpParams.ofParams (params : SipManager.Params) : SetUpParams where
  turnEnabled := params.turnEnabled
  iceConfigType := params.iceConfigType.map Int.ofNat
  turnUrl := params.turnUrl
  turnUsername := params.turnUsername
  turnPassword := params.turnPassword
  iceDomain := params.iceDomain
  iceServers := params.iceServers.map fun servers =>
    .array (servers.map fun server => .dictionary (server.map fun m => (m.1, .string m.2)))

/-- The kind of configuration is that of the App. -/
theorem configType_ofParams (params : SipManager.Params) :
    (SetUpParams.ofParams params).configType = iceConfigType params := by
  unfold SetUpParams.configType SetUpParams.ofParams iceConfigType
  rcases params.iceConfigType with _ | _ | _ | _ | n <;> rfl

section Session
variable {env : MediaEnv} (params : SipManager.Params) (sdp : Option CString)
  (initiator hasDelegate video : Bool)

/-- A session that signals at once. -/
theorem startSignaling_eq (hpeer : ∀ servers, env.peerConnection servers = some true)
    (servers : List RTCIceServer) (media : MediaWebRTC) (hcomplete : media.isTurnComplete = true)
    (hinitiator : media.isInitiator = initiator) (hrequested : media.turnRequested = false)
    (pending : Option (List Conclusion)) :
    startSignaling env ⟨sdp, initiator, hasDelegate⟩ servers =
      (media.startSignalingIfReady sdp).bind fun media =>
        if media.turnRequested then pending
        else some (if media.isTurnComplete then [.signaling] else []) := by
  unfold startSignaling MediaWebRTC.startSignalingIfReady
  rw [hpeer, if_neg (by simp [hcomplete])]
  cases initiator with
  | true => simp [hinitiator, hrequested, hcomplete]
  | false =>
    cases sdp <;>
      simp [hinitiator, MediaWebRTC.processSignalingMessage, hrequested, hcomplete]

/-- Where URLs and servers are in order, the set-up is `connect:` of the session, and then the
completion of the request that it has made. -/
theorem setUp_ofParams (hurl : ∀ url, env.validURL url = true)
    (hpeer : ∀ servers, env.peerConnection servers = some true)
    (hservers : WellFormedServers (SetUpParams.ofParams params).iceServers)
    (owner : Nat) (response : TurnResponse) :
    setUp env (SetUpParams.ofParams params) ⟨sdp, initiator, hasDelegate⟩ response =
      (MediaWebRTC.connect params sdp initiator video { owner := owner }).bind fun media =>
        if media.turnRequested then
          (requestServers env (iceConfigType params) response).bind
            (responseBlock env ⟨sdp, initiator, hasDelegate⟩)
        else some (if media.isTurnComplete then [.signaling] else []) := by
  have hturn : (SetUpParams.ofParams params).turnEnabled = params.turnEnabled := rfl
  unfold setUp MediaWebRTC.connect
  rw [hturn, configType_ofParams]
  by_cases henabled : params.turnEnabled.getD false = true
  · rw [if_pos henabled]
    -- The request is sent, and its answer is dealt with later.
    simp only [henabled, if_true]
    cases iceConfigType params with
    | xirsysV2 =>
      simp [request, hurl]
    | xirsysV3 =>
      have hurl' : (SetUpParams.ofParams params).turnUrl = params.turnUrl := rfl
      rw [hurl']
      obtain ⟨hfilter, hempty⟩ | ⟨turnUrl, hsome, hne, hfilter⟩ :=
        filter_turnUrl_cases params.turnUrl
      · -- Without a URL nothing is requested.
        have hnil : params.turnUrl.getD [] = [] := by
          cases hturnUrl : params.turnUrl with
          | none => rfl
          | some url => exact hempty url hturnUrl
        rw [hfilter]
        simp [hnil]
      · rw [hfilter]
        simp [request, hurl, hsome, hne]
    | custom =>
      -- The servers are in the parameters, and they are well formed.
      obtain ⟨servers, hsome⟩ :=
        Option.isSome_iff_exists.mp ((serverFromXirsysArray_isSome_iff _).mpr hservers)
      rw [hsome]
      exact startSignaling_eq sdp initiator hasDelegate hpeer _ _ rfl rfl rfl _
  · -- Without TURN signaling starts at once.
    rw [if_neg henabled, if_neg henabled]
    exact startSignaling_eq sdp initiator hasDelegate hpeer _ _ rfl rfl rfl _

end Session

end RestCommSdk.Proofs
