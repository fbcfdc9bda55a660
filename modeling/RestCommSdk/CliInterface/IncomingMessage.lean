import RestCommSdk.CliInterface.SscSip
import RestCommSdk.Logging

/-!
# `RestCommSdk.CliInterface.IncomingMessage`: a MESSAGE of a peer

What `ssc_i_message` is called with: the URL of the sender, as `url.h` prints it, and the body, as
it lies in the buffer of the transport. Before that, the transport has logged the message.
-/

set_option autoImplicit false

namespace RestCommSdk.CliInterface

/-- `url_t` -/
structure Url where
  /-- `url_type` is `url_any`. -/
  any : Bool := false
  root : Bool := false
  scheme : Option CString := none
  user : Option CString := none
  password : Option CString := none
  host : Option CString := none
  port : Option CString := none
  path : Option CString := none
  params : Option CString := none
  headers : Option CString := none
  fragment : Option CString := none
  deriving DecidableEq, Repr

namespace Url
variable (u : Url)

/-- A character in front of a part, when the part is there. -/
def marked (c : Char) (part : Option CString) : List CString :=
  [if part.isSome then [c] else [], part.getD []]

/-- `URL_PRINT_ARGS` -/
def printArgs : List CString :=
  [u.scheme.getD [], if !u.any && u.scheme.any (!·.isEmpty) then [':'] else [],
    if u.root && (u.host.isSome || u.user.isSome) then "//".toList else [], u.user.getD []] ++
  marked ':' (if u.user.isSome then u.password else none) ++
  [if u.user.isSome && u.host.isSome then ['@'] else [], u.host.getD []] ++
  marked ':' (if u.host.isSome then u.port else none) ++
  [if u.root && u.path.isSome then ['/'] else [], u.path.getD []] ++
  marked ';' u.params ++ marked '?' u.headers ++ marked '#' u.fragment

/-- The URL, printed with `URL_PRINT_FORMAT`. -/
def print : CString := u.printArgs.flatten

end Url

/-- A URL that the buffer `char url[1000]` holds whole. -/
structure SenderUrl extends Url where
  short : toUrl.print.length < 1000

/-- A MESSAGE in the buffer of the transport. -/
structure BufferedMessage where
  /-- The request line, the header lines and the empty line. -/
  head : CString
  /-- As many bytes as `Content-Length` says. -/
  body : CString
  /-- What lies in memory behind the body. -/
  behind : CString

namespace BufferedMessage
variable (message : BufferedMessage)

/-- The lines that the transport logs. -/
def log : List CString := tportLog (message.head ++ message.body)

/-- `sip_payload`, which the parser does not make for a body of length 0. Its `pl_data` points into
the buffer and `pl_len` is never looked at: what is read goes on to the first NUL, wherever that
is. -/
def sipPayload : Option CString :=
  if message.body.isEmpty then none
  else some ((message.body ++ message.behind).takeWhile (· ≠ '\x00'))

end BufferedMessage

/-- The MESSAGE of a sender. -/
def incomingMessage (sender : SenderUrl) (message : BufferedMessage) : Sip :=
  { sipFrom := some { url := sender.print, urlUser := sender.user }
    hasTo := true
    payload := message.sipPayload }

/-- The pipe to the App: the reads that the bytes of a write come in, each into a buffer of 65536
bytes. -/
structure ReplyPipe where
  reads : CString → List CString
  ne : ∀ bytes, ∀ b ∈ reads bytes, b ≠ []
  size : ∀ bytes, ∀ b ∈ reads bytes, b.length ≤ 65536
  flatten : ∀ bytes, (reads bytes).flatten = bytes

end RestCommSdk.CliInterface
