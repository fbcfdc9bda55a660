import RestCommSdk.Media.MediaWebRTC

/-!
# `RestCommSdk.Media.XirsysTURNClient`: the ICE servers

`XirsysTURNClient.m`, which asks a Xirsys service for servers, and `serverFromXirsysArray:` of
`RTCICEServer+JSON.m`, which makes them of what it answers. An answer is JSON that nobody has
checked: an object is a dictionary, an array or something else, and a message that it does not
understand raises an exception. A result `none` is such an exception, or an insertion of `nil`.

What the frameworks do is in `MediaEnv`.
-/

set_option autoImplicit false

namespace RestCommSdk

open RestCommSdk.CliInterface (CString format)

/-! ### Objects -/

/-- What `NSJSONSerialization` makes of JSON, as far as it is told apart. -/
inductive NSObject where
  | null
  /-- A number or a boolean, by its `integerValue`. -/
  | number (integerValue : Int)
  | string (s : CString)
  | array (elements : List NSObject)
  | dictionary (members : List (CString × NSObject))

namespace NSObject

/-- `[object objectForKey:key]`. A message to `nil` answers `nil`; only dictionaries understand
it otherwise. -/
def objectForKey (object : Option NSObject) (key : String) : Option (Option NSObject) :=
  match object with
  | none => some none
  | some (.dictionary members) => some (members.lookup key.toList)
  | some _ => none

/-- `UTF8String`, which only strings understand. -/
def utf8String : NSObject → Option CString
  | .string s => some s
  | _ => none

end NSObject

/-- What the frameworks answer. -/
structure MediaEnv where
  /-- `URLWithString:` does not answer `nil`. -/
  validURL : CString → Bool
  /-- `JSONObjectWithData:options:error:`, `none` when there is an error. -/
  jsonObject : CString → Option NSObject
  /-- The text of an object in `%@`. -/
  description : NSObject → CString
  /-- `peerConnectionWithConfiguration:constraints:delegate:` answers a peer connection, or `nil`.
  `none` is an exception. -/
  peerConnection : List (CString × CString × NSObject) → Option Bool

/-! ### Servers -/

/-- `RTCIceServer`: the URL, the user name and the credential. -/
abbrev RTCIceServer := CString × CString × NSObject

/-- One entry of the list of `serverFromXirsysArray:`. Its log line asks for the UTF-8 text of the
URL and of the user name, and the array of URLs takes no `nil`. -/
def serverFromXirsys (entry : NSObject) : Option RTCIceServer :=
  match entry with
  | .dictionary members => do
    let url ← members.lookup "url".toList
    let url ← url.utf8String
    let username ← ((members.lookup "username".toList).getD (.string [])).utf8String
    let credential := (members.lookup "credential".toList).getD (.string [])
    return (url, username, credential)
  | _ => none

/-- The loop of `serverFromXirsysArray:`. -/
def serversFromXirsys : List NSObject → Option (List RTCIceServer)
  | [] => some []
  | entry :: entries => do
    let server ← serverFromXirsys entry
    let servers ← serversFromXirsys entries
    return server :: servers

/-- `serverFromXirsysArray:`. A dictionary is enumerated as well, by its keys, and a key is no
entry. -/
def serverFromXirsysArray (array : Option NSObject) : Option (List RTCIceServer) :=
  match array with
  | none | some (.dictionary []) => some []
  | some (.array entries) => serversFromXirsys entries
  | some _ => none

/-! ### The request -/

/-- What is looked at of an `NSError`. -/
structure TurnError where
  localizedDescription : CString
  /-- `isValidJSONObject:` of its `userInfo`. An error of `NSURLSession` has an `NSURL` in there,
  and mostly another error, and neither is written as JSON. -/
  userInfoIsJSON : Bool
  deriving DecidableEq, Repr

/-- How the request ends. -/
inductive TurnResponse where
  /-- There was no answer. -/
  | error (error : TurnError)
  | data (bytes : CString)
  deriving DecidableEq, Repr

/-- What the completion handler is called with: servers, or an error. -/
abbrev TurnServers := Except TurnError (List RTCIceServer)

/-- An error of the client itself, whose `userInfo` is the one text. -/
def TurnError.ofText (localizedDescription : CString) : TurnError where
  localizedDescription := localizedDescription
  userInfoIsJSON := true

/-- The status says that the servers are there. -/
def statusIsOk (status : Option NSObject) : Bool :=
  match status with
  | some (.number integerValue) => integerValue = 200
  | some (.string s) => s = "ok".toList
  | _ => false

/-- The text of the error for JSON that cannot be read. -/
def parsingError : CString :=
  "Error parsing JSON containing TURN servers. Check your TURN service".toList

/-- The text of the error for a status that is not ok. -/
def retrievingError (env : MediaEnv) (e : Option NSObject) : CString :=
  "Error retrieving TURN servers: ".toList ++ format (e.map env.description) ++
    ". Check your TURN service or disable TURN altogether".toList

/-- The servers of an answer whose status is ok. The member `d` is looked into for both versions
of the service. -/
def turnServers (iceConfigType : ICEConfigType) (dict : NSObject) :
    Option (List RTCIceServer) := do
  let d ← NSObject.objectForKey (some dict) "d"
  let iceServers ← NSObject.objectForKey d "iceServers"
  if iceConfigType = .xirsysV3 then
    let v ← NSObject.objectForKey (some dict) "v"
    let iceServers ← NSObject.objectForKey v "iceServers"
    serverFromXirsysArray iceServers
  else serverFromXirsysArray iceServers

/-- The block of `requestServersWithRequest:iceConfigType:andCompletionHandler:`, and what it
calls the completion handler with. -/
def requestServers (env : MediaEnv) (iceConfigType : ICEConfigType) (response : TurnResponse) :
    Option TurnServers :=
  match response with
  | .error error => some (.error error)
  | .data bytes =>
    match env.jsonObject bytes with
    | none => some (.error (.ofText parsingError))
    | some dict => do
      let status ← NSObject.objectForKey (some dict) "s"
      if statusIsOk status then
        let servers ← turnServers iceConfigType dict
        return .ok servers
      else
        let e ← NSObject.objectForKey (some dict) "e"
        return .error (.ofText (retrievingError env e))

end RestCommSdk
