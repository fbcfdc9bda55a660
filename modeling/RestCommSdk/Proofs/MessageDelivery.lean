import RestCommSdk.Proofs.AppOutputs
import RestCommSdk.Proofs.QueuedPipes
import RestCommSdk.Proofs.SscReplies
import RestCommSdk.Proofs.StackRequests

/-!
# `RestCommSdk.Proofs.MessageDelivery`: text messages and calls from end to end

What a thread does with a line or a reply, and what the pipes do with it, are put together here.
`Conveys` relates the ends: what the application is notified of to the replies that were
dispatched, the replies that were sent to the events of the stack, and what the stack was asked
for to the lines that were handled. Every step of the system with queues keeps it.

As the pipes are queues (`wired_simulates`), three results follow for whole runs of both threads.
`notified_of_run`: the application is notified of the text messages that came in, each once and in
their order. `asked_of_run`: the stack is asked for nothing about a call or a text message that no
command of the App was written for. `messages_of_run`: it is asked to send the text messages that
the application has sent.
-/

set_option autoImplicit false

namespace RestCommSdk.Proofs

open RestCommSdk.Lib
open RestCommSdk.CliInterface
open RestCommSdk.SipManager (NSDictionary Command stringifyDictionary)

/-! ### What happened -/

/-- The inputs of the application and the frameworks. -/
def givenInputs (history : List Occurrence) : List AppInput :=
  history.filterMap fun
    | .input input => some input
    | _ => none

/-- What the delegate of the device was told. -/
def notifiedEvents (history : List Occurrence) : List DeviceEvent :=
  history.filterMap fun
    | .notified event => some event
    | _ => none

/-- The events of the stack, with their handles. -/
def stackEvents (history : List Occurrence) : List (Nat × NuaEvent) :=
  history.filterMap fun
    | .event nh e => some (nh, e)
    | _ => none

/-- What the stack was called for. -/
def stackCalls (history : List Occurrence) : List NuaCall :=
  history.filterMap fun
    | .asked call => some call
    | _ => none

section Histories
variable (before after : List Occurrence) (o : Occurrence) (app : App) (sofia : SofiaThread)

/-- The inputs of two histories, one after the other. -/
@[simp] theorem givenInputs_append :
    givenInputs (before ++ after) = givenInputs before ++ givenInputs after :=
  List.filterMap_append

/-- The inputs of a history that begins with `o`. -/
@[simp] theorem givenInputs_cons :
    givenInputs (o :: after) =
      (match o with
        | .input input => [input]
        | _ => []) ++ givenInputs after := by
  cases o <;> rfl

/-- What the App has done is no input. -/
@[simp] theorem givenInputs_app : givenInputs app.occurrences = [] := by
  simp [givenInputs, App.occurrences]

/-- What the Sofia thread has done is no input of the App. -/
@[simp] theorem givenInputs_sofia : givenInputs sofia.occurrences = [] := by
  simp [givenInputs, SofiaThread.occurrences]

/-- The notifications of two histories, one after the other. -/
@[simp] theorem notifiedEvents_append :
    notifiedEvents (before ++ after) = notifiedEvents before ++ notifiedEvents after :=
  List.filterMap_append

/-- The notifications of a history that begins with `o`. -/
@[simp] theorem notifiedEvents_cons :
    notifiedEvents (o :: after) =
      (match o with
        | .notified event => [event]
        | _ => []) ++ notifiedEvents after := by
  cases o <;> rfl

/-- The App notifies what it has for the application. -/
@[simp] theorem notifiedEvents_app : notifiedEvents app.occurrences = app.notified := by
  simp [notifiedEvents, App.occurrences]

/-- The Sofia thread notifies nobody. -/
@[simp] theorem notifiedEvents_sofia : notifiedEvents sofia.occurrences = [] := by
  simp [notifiedEvents, SofiaThread.occurrences]

/-- The events of two histories, one after the other. -/
@[simp] theorem stackEvents_append :
    stackEvents (before ++ after) = stackEvents before ++ stackEvents after :=
  List.filterMap_append

/-- The events of a history that begins with `o`. -/
@[simp] theorem stackEvents_cons :
    stackEvents (o :: after) =
      (match o with
        | .event nh e => [(nh, e)]
        | _ => []) ++ stackEvents after := by
  cases o <;> rfl

/-- What the App has done is no event of the stack. -/
@[simp] theorem stackEvents_app : stackEvents app.occurrences = [] := by
  simp [stackEvents, App.occurrences]

/-- What the Sofia thread has done is no event of the stack. -/
@[simp] theorem stackEvents_sofia : stackEvents sofia.occurrences = [] := by
  simp [stackEvents, SofiaThread.occurrences]

/-- The calls of two histories, one after the other. -/
@[simp] theorem stackCalls_append :
    stackCalls (before ++ after) = stackCalls before ++ stackCalls after :=
  List.filterMap_append

/-- The calls of a history that begins with `o`. -/
@[simp] theorem stackCalls_cons :
    stackCalls (o :: after) =
      (match o with
        | .asked call => [call]
        | _ => []) ++ stackCalls after := by
  cases o <;> rfl

/-- The App asks the stack for nothing. -/
@[simp] theorem stackCalls_app : stackCalls app.occurrences = [] := by
  simp [stackCalls, App.occurrences]

/-- The Sofia thread asks the stack for what is in `nua`. -/
@[simp] theorem stackCalls_sofia : stackCalls sofia.occurrences = sofia.ssc.nua := by
  simp [stackCalls, SofiaThread.occurrences]

end Histories

/-! ### What comes in -/

/-- A text message, with the URL of its sender as it is printed. -/
structure ReceivedMessage where
  sender : CString
  body : CString
  deriving DecidableEq

/-- The text of the reply for it. -/
def ReceivedMessage.text (m : ReceivedMessage) : CString := m.sender ++ '|' :: m.body

/-- A MESSAGE with a sender and a body. -/
def receivedMessage : Nat × NuaEvent → Option ReceivedMessage
  | (_, .iMessage (some sip)) => do
    let sipFrom ← sip.sipFrom
    let payload ← sip.payload
    return { sender := sipFrom.printed, body := payload }
  | _ => none

/-- An INVITE, by its handle. -/
def receivedInvite : Nat × NuaEvent → Option Nat
  | (nh, .iInvite _) => some nh
  | _ => none

/-- The text of a reply for a message. -/
def announcedText (reply : SofiaReply) : Option CString :=
  if SipMsgEnum.ofCode reply.rc = some .incomingMsg then some reply.text else none

/-- The reply announces a call. -/
def announcesCall (reply : SofiaReply) : Bool :=
  SipMsgEnum.ofCode reply.rc = some .incomingCall

/-- What the App reads out of a text: the body and the sender. -/
def readText (text : CString) : CString × Option CString :=
  (((text.dropWhile (· ≠ '|')).drop 1).takeWhile (· ≠ '|'),
    usernameFromUri (some (text.takeWhile (· ≠ '|'))))

/-- The body and the sender that the application is notified of. -/
def notifiedMessage : DeviceEvent → Option (CString × Option CString)
  | .didReceiveIncomingMessage message caller => some (message, some caller)
  | _ => none

/-- The connection that the application is notified of. -/
def notifiedCall : DeviceEvent → Option Nat
  | .didReceiveIncomingConnection c => some c
  | _ => none

/-! ### What goes out -/

/-- What a line wants to be asked for. -/
def lineAsks : Line → List Ask
  | .command c => (sscCalls c).filterMap wanted
  | .credentials _ => []

/-- The text message of a line, when its destination is an address. -/
def lineMessage (env : SscEnv) : Line → Option StackMessage
  | .command (.message destination msg _ sipHeaders) =>
    if env.validAddress destination then
      some { destination := some destination, headers := sipHeaders, msg := some msg }
    else none
  | _ => none

/-- The text of a line that sends a text message. -/
def lineText : Line → Option CString
  | .command (.message _ msg _ _) => some msg
  | _ => none

/-- The text that the application sends. -/
def givenText : AppInput → Option CString
  | .sendMessage message _ _ => some message
  | _ => none

/-! ### A step of the App -/

section App
variable {jsonObject : CString → Option NSDictionary} {app app' : App}

/-- The App neither sends a text message nor notifies of anything that comes in. -/
structure Plain (app : App) : Prop where
  piped : ∀ piped ∈ app.piped, isMessage piped.command = false
  notified : ∀ event ∈ app.notified, isIncoming event = false

/-- A step begins with nothing piped and nothing notified. -/
theorem plain_silent (app : App) : Plain app.silent := by
  constructor <;> intro _ hmem <;> cases hmem

/-- A command other than a message is piped. -/
theorem Plain.pipe {source : Option Nat} {command : Command} (h : Plain app)
    (hcommand : isMessage command = false) : Plain (app.pipe source command) where
  piped := by
    simp only [App.pipe, List.mem_append, List.mem_singleton]
    rintro piped (hpiped | rfl)
    · exact h.piped piped hpiped
    · exact hcommand
  notified := h.notified

/-- The commands that set a call up are no text messages. -/
theorem Plain.pipeAll {source : Option Nat} {commands : List Command} (h : Plain app)
    (hcommands : ∀ command ∈ commands, isSetUp command = true) :
    Plain (commands.foldl (fun app command => app.pipe source command) app) := by
  induction commands generalizing app with
  | nil => exact h
  | cons command commands ih =>
    rw [List.forall_mem_cons] at hcommands
    refine ih (h.pipe ?_) hcommands.2
    cases command <;> first | rfl | cases hcommands.1

/-- What an App has done that pipes no message and notifies none, method by method. -/
theorem outputInvariant_plain : OutputInvariant fun _ => Plain where
  of_eq {_ app app'} h heq := by
    have hpiped : app'.piped = app.piped := congrArg (·.1) heq
    have hnotified : app'.notified = app.notified := congrArg (·.2.1) heq
    exact ⟨hpiped ▸ h.piped, hnotified ▸ h.notified⟩
  pipe _ _ h hcommand := h.pipe (by simpa using (Bool.and_eq_true_iff.mp hcommand).1)
  notify h hevent :=
    ⟨h.piped, by
      simp only [App.notify, List.mem_append, List.mem_singleton]
      rintro event (hmem | rfl)
      · exact h.notified event hmem
      · exact hevent⟩
  session _ _ h _ := ⟨h.piped, h.notified⟩
  gathered _ _ h _ _ _ hcommands := .pipeAll ⟨h.piped, h.notified⟩ hcommands.setUp
  start h := h
  prompt _ h := ⟨h.piped, h.notified⟩
  make h _ := ⟨h.piped, h.notified⟩
  answer _ _ h _ := ⟨0, ⟨h.piped, h.notified⟩, fun _ h => h⟩

/-- The messages that the App has written are those that it has piped. -/
theorem filterMap_lineText (app : App) :
    app.written.filterMap lineText
      = app.piped.filterMap fun piped => lineText (.command piped.command) := by
  have hcredentials : app.credentials.filterMap (lineText ∘ Line.credentials) = [] :=
    List.filterMap_eq_nil_iff.mpr fun _ _ => rfl
  simp only [App.written, List.filterMap_append, List.filterMap_map, hcredentials,
    List.append_nil]
  rfl

/-- Such an App has nothing at either end of a message. -/
theorem Plain.ends (h : Plain app) :
    app.written.filterMap lineText = [] ∧ app.notified.filterMap notifiedMessage = [] ∧
      app.notified.filterMap notifiedCall = [] := by
  rw [filterMap_lineText]
  refine ⟨List.filterMap_eq_nil_iff.mpr fun piped hpiped => ?_,
    List.filterMap_eq_nil_iff.mpr fun event hevent => ?_,
    List.filterMap_eq_nil_iff.mpr fun event hevent => ?_⟩
  · have hmessage := h.piped piped hpiped
    revert hmessage
    cases piped.command <;> intro hmessage <;> first | rfl | cases hmessage
  all_goals
    have hincoming := h.notified event hevent
    cases event <;> first | rfl | cases hincoming

/-- An input of the application sends its text message, if any, and notifies of nothing that
comes in. -/
theorem ends_of_isLocal {input : AppInput} (hlocal : input.isLocal = true)
    (h : appStep jsonObject app input = some app') :
    (app'.written.filterMap lineText).Sublist (givenText input).toList ∧
      app'.notified.filterMap notifiedMessage = [] ∧
        app'.notified.filterMap notifiedCall = [] := by
  cases input with
  | sendMessage message recipient headers =>
    cases h
    unfold RCDevice.sendMessage
    rw [filterMap_lineText]
    split <;> simp [App.silent, SipManager.message, App.pipe, lineText, givenText]
  | reply reply active => cases hlocal
  | _ =>
    obtain ⟨htext, hends⟩ :=
      (outputInvariant_plain.appHandle (n := 0) (plain_silent app) rfl h).ends
    exact ⟨htext ▸ List.nil_sublist _, hends⟩

/-- A reply sends no text message, and the application is notified of what it announces. -/
theorem ends_of_reply {reply : SofiaReply} {active : Bool}
    (h : appStep jsonObject app (.reply reply active) = some app') :
    app'.written.filterMap lineText = [] ∧
      app'.notified.filterMap notifiedMessage = ((announcedText reply).map readText).toList ∧
        (app'.notified.filterMap notifiedCall).length = if announcesCall reply then 1 else 0 := by
  by_cases hannounces : announces reply = true
  · have hcode : SipMsgEnum.ofCode reply.rc = some .incomingCall ∨
        SipMsgEnum.ofCode reply.rc = some .incomingMsg := by
      simpa [announces] using hannounces
    rcases hcode with hcode | hcode
    · -- An INVITE makes a connection and one notification of a call.
      obtain ⟨sdp, rfl⟩ := incomingCall_handled hcode h
      rw [filterMap_lineText]
      simp [announcedText, announcesCall, hcode, App.notify, RCDevice.makeConnection, App.silent,
        notifiedMessage, notifiedCall]
    · -- A MESSAGE is announced with its text, in the caller's name.
      obtain ⟨-, -, caller, hcaller, rfl⟩ := incomingMsg_handled hcode h
      rw [filterMap_lineText]
      simp [announcedText, announcesCall, hcode, App.notify, App.silent, notifiedMessage,
        notifiedCall, readText, ← hcaller]
  · -- Every other reply runs handlers that write no message and announce nothing.
    have hplain : isPlainInput (.reply reply active) = true := by
      simpa [isPlainInput] using hannounces
    obtain ⟨htext, hmessage, hcall⟩ :=
      (outputInvariant_plain.appHandle (n := 0) (plain_silent app) hplain h).ends
    have hcodes : SipMsgEnum.ofCode reply.rc ≠ some .incomingCall ∧
        SipMsgEnum.ofCode reply.rc ≠ some .incomingMsg := by
      simpa [announces] using hannounces
    simp [htext, hmessage, hcall, announcedText, announcesCall, hcodes.1, hcodes.2]

end App

/-! ### A turn of the Sofia thread -/

/-- A reply that announces nothing has neither a message nor a call. -/
theorem announcedText_of_not {reply : SofiaReply} (h : announces reply = false) :
    announcedText reply = none ∧ announcesCall reply = false := by
  have hcodes : SipMsgEnum.ofCode reply.rc ≠ some .incomingCall ∧
      SipMsgEnum.ofCode reply.rc ≠ some .incomingMsg := by
    simpa [announces] using h
  simp [announcedText, announcesCall, hcodes.1, hcodes.2]

/-- Replies that announce nothing. -/
def Unannouncing (replies : List SofiaReply) : Prop := ∀ reply ∈ replies, announces reply = false

/-- Such replies have neither messages nor calls. -/
theorem Unannouncing.ends {replies : List SofiaReply} (h : Unannouncing replies) :
    replies.filterMap announcedText = [] ∧ replies.countP announcesCall = 0 := by
  refine ⟨List.filterMap_eq_nil_iff.mpr fun reply hreply => ?_,
    List.countP_eq_zero.mpr fun reply hreply => ?_⟩
  · exact (announcedText_of_not (h reply hreply)).1
  · rw [(announcedText_of_not (h reply hreply)).2]
    exact Bool.false_ne_true

/-- No replies announce nothing. -/
theorem unannouncing_nil : Unannouncing [] := fun _ hmem => by cases hmem

/-- A single reply that announces nothing. -/
theorem unannouncing_reply {reply : SofiaReply} (h : announces reply = false) :
    Unannouncing [reply] := by
  simpa [Unannouncing] using h

/-- Only a MESSAGE and an INVITE are announced. -/
theorem unannouncing_eventReplies (ssc : Ssc) (nh : Nat) {e : NuaEvent}
    (hmessage : ∀ sip, e ≠ .iMessage sip) (hinvite : ∀ sip, e ≠ .iInvite sip) :
    Unannouncing (eventReplies ssc nh e) := by
  cases e with
  | iMessage sip => exact absurd rfl (hmessage sip)
  | iInvite sip => exact absurd rfl (hinvite sip)
  | rRegister status phrase sip =>
    -- The failed registrations, calls and messages reply with codes that announce nothing.
    simp only [eventReplies, rRegisterReplies, registerFailed]
    split_ifs <;> first | exact unannouncing_nil | exact unannouncing_reply rfl
  | rInvite status sip =>
    simp only [eventReplies, rInviteReplies, CliInterface.inviteFailed]
    split_ifs <;> first | exact unannouncing_nil | exact unannouncing_reply rfl
  | iState tags =>
    simp only [eventReplies, iStateReplies]
    split
    · split_ifs
      · exact unannouncing_reply rfl
      · exact unannouncing_nil
    · exact unannouncing_nil
  | rBye status sip =>
    simp only [eventReplies]
    split_ifs
    · exact unannouncing_nil
    · exact unannouncing_reply rfl
  | rMessage status sip =>
    simp only [eventReplies, messageFailed]
    split_ifs <;> first | exact unannouncing_nil | exact unannouncing_reply rfl
  | iBye | iCancel => exact unannouncing_reply rfl
  | _ => exact unannouncing_nil

/-- A command announces nothing. -/
theorem unannouncing_callReplies (env : SscEnv) (alloc : Alloc) (ssc : Ssc) (c : SscCall) :
    Unannouncing (callReplies env alloc ssc c) := by
  cases c with
  | invite destination password sdp headers =>
    simp only [callReplies]
    split_ifs
    · exact unannouncing_nil
    · exact unannouncing_reply rfl
  | _ => exact unannouncing_nil

/-- From an empty request list, what was asked is at most what was wanted. -/
theorem asked_of_asksOf {ssc : Ssc} {want : Option Ask} {base : Ssc} (hbase : base.nua = [])
    (h : AsksWanted want base ssc) : (ssc.nua.filterMap asked).Sublist want.toList := by
  have hnone : asksOf base = [] := by rw [asksOf, hbase, List.filterMap_nil]
  simp only [AsksWanted, hnone, List.nil_append] at h
  rw [← asksOf]
  rcases h with heq | ⟨ask, rfl, heq⟩ <;> rw [heq]
  · exact List.nil_sublist _
  · exact List.Sublist.refl _

section Sofia
variable {env : SscEnv} {jsonObject : CString → Option NSDictionary} {s s' : SofiaThread}
  {alloc : Alloc}

/-- An event asks the stack for nothing. -/
theorem asked_of_event (hdistinct : Distinct s.ssc) {nh : Nat} {e : NuaEvent}
    (h : sofiaStep env jsonObject s (alloc, .event nh e) = some s') :
    s'.ssc.nua.filterMap asked = [] := by
  obtain ⟨hfresh, hevent⟩ := sofiaStep_event h
  have haddrs : ((turnStart s.ssc).operations.map (·.addr)).Nodup := hdistinct.addrs
  have hturn : alloc.Fresh (turnStart s.ssc) := hfresh
  exact asksOf_privCallback hturn haddrs hevent

/-- A MESSAGE is announced, and an INVITE at most once. -/
theorem announced_of_event {nh : Nat} {e : NuaEvent}
    (h : sofiaStep env jsonObject s (alloc, .event nh e) = some s') :
    s'.ssc.sent.filterMap announcedText
        = ((receivedMessage (nh, e)).map ReceivedMessage.text).toList ∧
      s'.ssc.sent.countP announcesCall ≤ (receivedInvite (nh, e)).toList.length := by
  obtain ⟨-, hevent⟩ := sofiaStep_event h
  have hsent : s'.ssc.sent = eventReplies (turnStart s.ssc) nh e :=
    sent_privCallback env alloc hevent
  -- What is sent for an event depends on the event and the operations alone.
  rw [hsent]
  constructor
  · cases e with
    | iMessage sip =>
      obtain ⟨message, sipFrom, payload, rfl, hfrom, hpayload, -⟩ := sscIMessage_cases hevent
      -- `ssc_i_message` sends exactly the text it was handed.
      simp [eventReplies, iMessageReplies, receivedMessage, hfrom, hpayload, announcedText,
        SipMsgEnum.replyWith, ReceivedMessage.text]
    | iInvite sip =>
      simp only [eventReplies, iInviteReplies, receivedMessage, Option.map_none, Option.toList_none]
      split
      · -- An INVITE is announced by at most one reply, and never as a message.
        split_ifs <;> simp [announcedText, SipMsgEnum.replyWith]
      · rfl
    | _ =>
      exact (unannouncing_eventReplies _ nh (fun _ h => by cases h) fun _ h => by cases h).ends.1
  · cases e with
    | iMessage sip =>
      simp only [eventReplies, iMessageReplies]
      split <;> simp [announcesCall, SipMsgEnum.replyWith, receivedInvite]
    | iInvite sip =>
      simp only [eventReplies, iInviteReplies]
      split
      · split_ifs
        · exact List.countP_le_length
        · exact Nat.zero_le _
      · exact Nat.zero_le _
    | _ =>
      rw [(unannouncing_eventReplies _ nh (fun _ h => by cases h) fun _ h => by cases h).ends.2]
      exact Nat.zero_le _

/-- Credentials lead to one call, which authenticates. -/
theorem calls_credentials (jsonObject : CString → Option NSDictionary) (cli : Cli)
    (password : CString) :
    ∃ data, (sofsipHandleInput jsonObject cli (Line.credentials password).text).2
      = [.auth data] := by
  have hword : (scanCommand (Line.credentials password).text).1 = ['k'] := by
    obtain ⟨behind, hbehind⟩ := List.rdropWhile_prefix isWs (l := (Line.credentials password).text)
    have hhead : ((Line.credentials password).text.rdropWhile isWs).head? = some 'k' :=
      head?_rdropWhile ⟨'k', rfl, rfl⟩
    have hstrip := dropWhile_isWs ⟨'k', hhead, rfl⟩
    simp only [scanCommand, hstrip]
    -- What is left of the line is a `k`, or has the blank behind it still.
    obtain ⟨rest, hrest⟩ := List.head?_eq_some_iff.mp hhead
    rw [hrest] at hbehind ⊢
    cases rest with
    | nil => rfl
    | cons c rest =>
      cases hbehind
      rfl
  refine ⟨(scanCommand (Line.credentials password).text).2, ?_⟩
  rw [sofsipHandleInput, hword]
  rfl

/-- A command that is no message sends none. -/
theorem messagesTo_of_wanted {c : SscCall} {calls : List NuaCall}
    (hasked : (calls.filterMap asked).Sublist (wanted c).toList)
    (hc : ∀ headers msg, wanted c ≠ some (.message headers msg))
    (made : Option (Nat × CString)) : messagesTo made calls = [] :=
  messagesTo_eq_nil made fun headers msg hmem =>
    hc headers msg (Option.mem_toList.mp (hasked.subset hmem))

/-- A line announces nothing. -/
theorem announced_of_line {line prompt : CString}
    (h : sofiaStep env jsonObject s (alloc, .line line prompt) = some s') :
    s'.ssc.sent.filterMap announcedText = [] ∧ s'.ssc.sent.countP announcesCall = 0 := by
  obtain ⟨-, ⟨-, hssc⟩ | ⟨c, -, hcall⟩⟩ := sofiaStep_line h
  · rw [hssc]
    exact ⟨rfl, rfl⟩
  · have hsent : s'.ssc.sent = callReplies env alloc (turnStart s.ssc) c :=
      sent_sscCall env alloc hcall
    exact hsent ▸ (unannouncing_callReplies env alloc _ c).ends

/-- On a line the stack is asked for what the line wants, or for nothing, and to send its text
message, if the destination is an address. -/
theorem asked_of_line (hread : ∀ d, jsonObject (stringifyDictionary d) = some d)
    (hdistinct : Distinct s.ssc) {line : Line} {prompt : CString}
    (h : sofiaStep env jsonObject s (alloc, .line line.text prompt) = some s') :
    (s'.ssc.nua.filterMap asked).Sublist (lineAsks line) ∧
      ∀ made, messagesTo made s'.ssc.nua = (lineMessage env line).toList := by
  obtain ⟨hfresh, ⟨hcalls, hssc⟩ | ⟨c, hcalls, hcall⟩⟩ := sofiaStep_line h
  · -- The line is dropped before any call is made.
    rw [hssc]
    refine ⟨List.nil_sublist _, fun made => ?_⟩
    cases line with
    | credentials password => rfl
    | command cmd =>
      rw [Line.text, calls_text hread] at hcalls
      cases cmd <;> first | rfl | cases hcalls
  · have hturn : alloc.Fresh (turnStart s.ssc) := hfresh
    have haddrs : ((turnStart s.ssc).operations.map (·.addr)).Nodup := hdistinct.addrs
    have hasked := asked_of_asksOf rfl (asksOf_sscCall hturn haddrs hcall)
    cases line with
    | credentials password =>
      obtain ⟨data, hauth⟩ := calls_credentials jsonObject s.cli password
      cases hcalls.symm.trans hauth
      exact ⟨hasked, messagesTo_of_wanted hasked fun _ _ hwanted => by cases hwanted⟩
    | command cmd =>
      rw [Line.text, calls_text hread] at hcalls
      have hline : lineAsks (.command cmd) = (wanted c).toList := by
        rw [lineAsks, hcalls]
        cases hwanted : wanted c <;> simp [hwanted]
      refine ⟨hline ▸ hasked, fun made => ?_⟩
      cases cmd with
      -- Only a `m` line makes a request that carries a message, and only to a valid address.
      | message destination msg password sipHeaders =>
        cases hcalls
        have hssc := Option.some.inj hcall
        rw [← hssc, messagesTo_sscMessage hturn rfl, lineMessage]
        split <;> rfl
      | markForRestart => cases hcalls
      -- The other commands ask for requests of other methods.
      | _ =>
        cases hcalls
        exact messagesTo_of_wanted hasked (fun _ _ hwanted => by simp [wanted] at hwanted) made

/-- A new client announces nothing, and asks for none of these requests. -/
theorem ends_of_create (env : SscEnv) (alloc : Alloc) (cli : Cli) :
    ((SofiaThread.create env alloc cli).ssc.sent.filterMap announcedText = [] ∧
        (SofiaThread.create env alloc cli).ssc.sent.countP announcesCall = 0) ∧
      (SofiaThread.create env alloc cli).ssc.nua.filterMap asked = [] := by
  -- The registration at start goes through the list of operations, which is empty here.
  have hfresh : alloc.Fresh { address := cli.conf.aor } := by
    constructor <;> intro op hop <;> cases hop
  have hregister : asksOf (sscRegister env alloc cli.conf.registrar cli.conf.password
      { address := cli.conf.aor }) = [] :=
    (operationInvariant_asksOf []).sscRegister rfl hfresh _ _ (.inl trivial) fun _ _ => rfl
  have hsent : (sscRegister env alloc cli.conf.registrar cli.conf.password
      { address := cli.conf.aor }).sent = [] :=
    (frame_sscRegister env alloc cli.conf.registrar cli.conf.password _).sent
  unfold SofiaThread.create sscCreate
  dsimp only
  split
  · rw [ssc_clientAfter]
    refine ⟨?_, hregister⟩
    rw [Ssc.send, hsent]
    exact ⟨rfl, rfl⟩
  · exact ⟨⟨rfl, rfl⟩, rfl⟩

end Sofia

/-! ### The system with queues -/

section Queues
variable {env : SscEnv} {jsonObject : CString → Option NSDictionary} {q q' : Queued}

/-- A turn of the App is a step of it, and the Sofia thread waits. -/
theorem appTurn_cases {t t' : Threads} {what : Occurrence} {input : AppInput}
    (h : t.appTurn jsonObject what input = some t') :
    appStep jsonObject t.app input = some t'.app ∧ t'.sofia = t.sofia := by
  obtain ⟨app, happ, h⟩ := Option.bind_eq_some_iff.mp h
  cases h
  exact ⟨happ, rfl⟩

/-- The flag that the client shares is none of its ends. -/
theorem sofiaTurn_cases {t t' : Threads} {what : Occurrence} {input : Alloc × SofiaInput}
    (h : t.sofiaTurn env jsonObject what input = some t') :
    ∃ sofia, sofiaStep env jsonObject t.sofia input = some sofia ∧
      t'.sofia.ssc = { sofia.ssc with stackIsShuttingDown := false } ∧ t'.app = t.app := by
  unfold Threads.sofiaTurn at h
  split at h
  · cases h
  · obtain ⟨sofia, hsofia, h⟩ := Option.bind_eq_some_iff.mp h
    cases h
    exact ⟨sofia, hsofia, rfl, rfl⟩

/-- A new pass of `sofsip_loop` makes its client anew, and the App waits. -/
theorem nextPass_cases {t t' : Threads} {alloc : Alloc} (h : t.nextPass env alloc = some t') :
    (∃ cli, t'.sofia = SofiaThread.create env alloc cli) ∧ t'.app = t.app := by
  unfold Threads.nextPass at h
  split at h <;> cases h
  exact ⟨⟨_, rfl⟩, rfl⟩

/-! ### What comes in, through the queues -/

/-- The application is notified of what was dispatched, and the replies announce what the stack
has received. -/
structure Announces (history : List Occurrence) : Prop where
  notified : (notifiedEvents history).filterMap notifiedMessage
    = ((dispatchedReplies history).filterMap announcedText).map readText
  notifiedCalls : ((notifiedEvents history).filterMap notifiedCall).length
    = (dispatchedReplies history).countP announcesCall
  received : (repliesSent history).filterMap announcedText
    = ((stackEvents history).filterMap receivedMessage).map ReceivedMessage.text
  receivedCalls : (repliesSent history).countP announcesCall
    ≤ ((stackEvents history).filterMap receivedInvite).length

/-- A step of the App. -/
theorem Announces.app {history : List Occurrence} (h : Announces history) (what : Occurrence)
    (app : App) (hsent : repliesSent [what] = []) (hevents : stackEvents [what] = [])
    (hnotified : notifiedEvents [what] = [])
    (hmessages : app.notified.filterMap notifiedMessage
      = ((dispatchedReplies [what]).filterMap announcedText).map readText)
    (hcalls : (app.notified.filterMap notifiedCall).length
      = (dispatchedReplies [what]).countP announcesCall) :
    Announces (history ++ ([what] ++ app.occurrences)) := by
  constructor
  · simp only [notifiedEvents_append, hnotified, notifiedEvents_app, dispatchedReplies_append,
      dispatchedReplies_app, List.filterMap_append, List.map_append, h.notified, hmessages]
    simp
  · simp only [notifiedEvents_append, hnotified, notifiedEvents_app, dispatchedReplies_append,
      dispatchedReplies_app, List.filterMap_append, List.length_append, List.countP_append,
      h.notifiedCalls, hcalls]
    simp
  · simp only [repliesSent_append, hsent, repliesSent_app, stackEvents_append, hevents,
      stackEvents_app, List.append_nil, h.received]
  · simp only [repliesSent_append, hsent, repliesSent_app, stackEvents_append, hevents,
      stackEvents_app, List.append_nil]
    exact h.receivedCalls

/-- A turn of the Sofia thread. -/
theorem Announces.sofia {history : List Occurrence} (h : Announces history)
    (what : List Occurrence) (sofia : SofiaThread) (hsent : repliesSent what = [])
    (hdispatched : dispatchedReplies what = []) (hnotified : notifiedEvents what = [])
    (htexts : sofia.ssc.sent.filterMap announcedText
      = ((stackEvents what).filterMap receivedMessage).map ReceivedMessage.text)
    (hcalls : sofia.ssc.sent.countP announcesCall
      ≤ ((stackEvents what).filterMap receivedInvite).length) :
    Announces (history ++ (what ++ sofia.occurrences)) := by
  constructor
  · simp [hnotified, hdispatched, h.notified]
  · simp [hnotified, hdispatched, h.notifiedCalls]
  · simp [hsent, h.received, htexts]
  · have hbefore := h.receivedCalls
    simp only [repliesSent_append, hsent, repliesSent_sofia, stackEvents_append,
      stackEvents_sofia, List.nil_append, List.append_nil, List.countP_append,
      List.filterMap_append, List.length_append]
    omega

/-- At the start nothing was announced. -/
theorem announces_start (alloc : Alloc) (app : App) (cli : Cli) :
    Announces (Queued.start env alloc app cli).threads.history := by
  obtain ⟨⟨htexts, hcalls⟩, -⟩ := ends_of_create env alloc cli
  have hnone : Announces [] := by constructor <;> rfl
  exact hnone.sofia [] (SofiaThread.create env alloc cli) rfl rfl rfl htexts (Nat.le_of_eq hcalls)

/-- Every step keeps it. -/
theorem announces_queuedStep (h : Announces q.threads.history) {input : QueuedInput}
    (hstep : queuedStep env jsonObject q input = some q') : Announces q'.threads.history := by
  cases input with
  | app input =>
    simp only [queuedStep] at hstep
    split at hstep
    · obtain ⟨t, ht, hstep⟩ := Option.bind_eq_some_iff.mp hstep
      cases hstep
      -- A local input notifies nothing, whatever it writes.
      obtain ⟨-, hmessage, hcall⟩ := ends_of_isLocal ‹_› (appTurn_cases ht).1
      rw [appTurn_history ht]
      exact h.app (.input input) t.app rfl rfl rfl hmessage (congrArg List.length hcall)
    · cases hstep
  | handle turn =>
    simp only [queuedStep] at hstep
    split at hstep
    · cases hstep
    · obtain ⟨t, ht, hstep⟩ := Option.bind_eq_some_iff.mp hstep
      cases hstep
      obtain ⟨sofia, hturn, hssc, -⟩ := sofiaTurn_cases ht
      -- A line of the queue is no event of the stack, so what is received stays the same.
      obtain ⟨htexts, hcalls⟩ := announced_of_line hturn
      rw [sofiaTurn_history ht]
      refine h.sofia [_] t.sofia rfl rfl rfl ?_ ?_ <;> rw [hssc]
      · exact htexts
      · exact Nat.le_of_eq hcalls
  | stack alloc nh e =>
    obtain ⟨t, ht, hstep⟩ := Option.bind_eq_some_iff.mp hstep
    cases hstep
    obtain ⟨sofia, hturn, hssc, -⟩ := sofiaTurn_cases ht
    -- The replies to an event carry what the event brought.
    obtain ⟨htexts, hcalls⟩ := announced_of_event hturn
    rw [sofiaTurn_history ht]
    refine h.sofia [.event nh e] t.sofia rfl rfl rfl ?_ ?_ <;> rw [hssc]
    · refine htexts.trans ?_
      cases hreceived : receivedMessage (nh, e) <;> simp [hreceived, stackEvents]
    · refine hcalls.trans (Nat.le_of_eq ?_)
      cases hreceived : receivedInvite (nh, e) <;> simp [hreceived, stackEvents]
  | nextPass alloc =>
    obtain ⟨t, ht, hstep⟩ := Option.bind_eq_some_iff.mp hstep
    cases hstep
    obtain ⟨⟨cli, hsofia⟩, -⟩ := nextPass_cases ht
    -- The next pass starts over and sends no reply.
    obtain ⟨⟨htexts, hcalls⟩, -⟩ := ends_of_create env alloc cli
    rw [nextPass_history ht, hsofia]
    exact h.sofia [] _ rfl rfl rfl htexts (Nat.le_of_eq hcalls)
  | dispatch active =>
    simp only [queuedStep] at hstep
    split at hstep
    · cases hstep
    · rename_i reply replies _
      obtain ⟨t, ht, hstep⟩ := Option.bind_eq_some_iff.mp hstep
      cases hstep
      -- A dispatched reply is notified at once.
      obtain ⟨-, hmessage, hcall⟩ := ends_of_reply (appTurn_cases ht).1
      rw [appTurn_history ht]
      refine h.app (.dispatched reply) t.app rfl rfl rfl ?_ ?_
      · refine hmessage.trans ?_
        cases htext : announcedText reply <;> simp [htext, dispatchedReplies]
      · refine hcall.trans ?_
        simp [dispatchedReplies, List.countP_cons]

/-! ### What goes out, through the queues -/

/-- The texts that are written were given by the application, and the stack is asked for what the
lines that were handled want. -/
structure Conveys (env : SscEnv) (q : Queued) : Prop where
  distinct : Distinct q.threads.sofia.ssc
  given : ((writtenLines q.threads.history).filterMap lineText).Sublist
    ((givenInputs q.threads.history).filterMap givenText)
  handled : ∃ done, writtenLines q.threads.history = done ++ q.lines ∧
    ((stackCalls q.threads.history).filterMap asked).Sublist (done.flatMap lineAsks) ∧
      messagesTo none (stackCalls q.threads.history) = done.filterMap (lineMessage env)

/-- Distinct addresses are a matter of the operations alone. -/
theorem Distinct.of_eq {ssc ssc' : Ssc} (h : Distinct ssc)
    (hops : ssc'.operations = ssc.operations) : Distinct ssc' := by
  obtain ⟨t, ht⟩ := h
  exact ⟨t, ht.of_eq hops rfl⟩

/-- Calls that ask for nothing send no message. -/
theorem messagesTo_silent (made : Option (Nat × CString)) {calls : List NuaCall}
    (h : calls.filterMap asked = []) : messagesTo made calls = [] :=
  messagesTo_eq_nil made fun headers msg hmem => by
    rw [h] at hmem
    cases hmem

/-- At the start nothing was given and nothing sent. -/
theorem conveys_start (alloc : Alloc) (app : App) (cli : Cli) :
    Conveys env (Queued.start env alloc app cli) := by
  obtain ⟨-, hasked⟩ := ends_of_create env alloc cli
  refine ⟨distinct_create cli, ?_, [], ?_, ?_, ?_⟩
  · simp [Queued.start, Threads.start]
  · simp [Queued.start, Threads.start]
  · simp [Queued.start, Threads.start, hasked]
  · simpa [Queued.start, Threads.start] using messagesTo_silent none hasked

/-- The text messages of lines have the texts of the lines. -/
theorem sublist_lineText (env : SscEnv) (lines : List Line) :
    ((lines.filterMap (lineMessage env)).filterMap (·.msg)).Sublist (lines.filterMap lineText) := by
  induction lines with
  | nil => exact List.Sublist.refl _
  | cons line lines ih =>
    have hline : (lineMessage env line).bind (·.msg) = none ∨
        (lineMessage env line).bind (·.msg) = lineText line := by
      cases line with
      | credentials password => exact .inl rfl
      | command c =>
        cases c with
        | message destination msg password sipHeaders =>
          -- A message to an invalid address is dropped, with its text.
          by_cases hvalid : env.validAddress destination = true
          · exact .inr (by simp [lineMessage, hvalid, lineText])
          · exact .inl (by simp [lineMessage, hvalid])
        | _ => exact .inl rfl
    rw [List.filterMap_filterMap] at ih ⊢
    rw [List.filterMap_cons, List.filterMap_cons]
    rcases hline with hline | hline <;> rw [hline]
    · cases lineText line <;> simp [ih]
    · cases lineText line <;> simp [ih]

/-- A step of the App writes the texts that are given to it. -/
theorem Conveys.app (h : Conveys env q) (what : Occurrence) {input : AppInput} {t : Threads}
    {replies : List SofiaReply} (ht : q.threads.appTurn jsonObject what input = some t)
    (hwritten : writtenLines [what] = []) (hcalls : stackCalls [what] = [])
    (htext : (t.app.written.filterMap lineText).Sublist
      ((givenInputs [what]).filterMap givenText)) :
    Conveys env { threads := t, lines := q.lines ++ t.app.written, replies := replies } := by
  have hhistory : t.history = q.threads.history ++ ([what] ++ t.app.occurrences) :=
    appTurn_history ht
  obtain ⟨done, hlines, hasked, hmessages⟩ := h.handled
  have hstack : stackCalls t.history = stackCalls q.threads.history := by
    simp only [hhistory, stackCalls_append, hcalls, stackCalls_app, List.append_nil]
  have hwrite : writtenLines t.history = writtenLines q.threads.history ++ t.app.written := by
    simp only [hhistory, writtenLines_append, hwritten, writtenLines_app, List.nil_append]
  refine ⟨(appTurn_cases ht).2 ▸ h.distinct, ?_, done, ?_, ?_, ?_⟩
  · -- What is written is appended to the queue, and what was handled stays the same.
    have hgiven : givenInputs t.history = givenInputs q.threads.history ++ givenInputs [what] := by
      simp only [hhistory, givenInputs_append, givenInputs_app, List.append_nil]
    rw [hwrite, hgiven, List.filterMap_append, List.filterMap_append]
    exact h.given.append htext
  · simp [hwrite, hlines]
  · simpa [hstack] using hasked
  · simpa [hstack] using hmessages

/-- A turn of the Sofia thread asks for what the lines that it handles want. -/
theorem Conveys.sofia (h : Conveys env q) (what : List Occurrence) (lines : List Line)
    {left : List Line} {replies : List SofiaReply} {t : Threads} (hlines : q.lines = lines ++ left)
    (hhistory : t.history = q.threads.history ++ (what ++ t.sofia.occurrences))
    (hdistinct : Distinct t.sofia.ssc) (hwritten : writtenLines what = [])
    (hgiven : givenInputs what = []) (hcalls : stackCalls what = [])
    (hasked : (t.sofia.ssc.nua.filterMap asked).Sublist (lines.flatMap lineAsks))
    (hmessages : ∀ made, messagesTo made t.sofia.ssc.nua = lines.filterMap (lineMessage env)) :
    Conveys env { threads := t, lines := left, replies := replies } := by
  -- The lines that were taken off the queue join the handled ones.
  obtain ⟨done, hdone, hasked', hmessages'⟩ := h.handled
  have hstack : stackCalls t.history = stackCalls q.threads.history ++ t.sofia.ssc.nua := by
    simp only [hhistory, stackCalls_append, hcalls, stackCalls_sofia, List.nil_append]
  refine ⟨hdistinct, ?_, done ++ lines, ?_, ?_, ?_⟩
  · simpa [hhistory, hwritten, hgiven] using h.given
  · simp [hhistory, hwritten, hdone, hlines]
  · simpa [hstack] using hasked'.append hasked
  · obtain ⟨made, happend⟩ :=
      messagesTo_append none (stackCalls q.threads.history) t.sofia.ssc.nua
    simp only [hstack, happend, hmessages, hmessages', List.filterMap_append]

/-- Every step keeps it. -/
theorem conveys_queuedStep (hread : ∀ d, jsonObject (stringifyDictionary d) = some d)
    (h : Conveys env q) {input : QueuedInput}
    (hstep : queuedStep env jsonObject q input = some q') : Conveys env q' := by
  cases input with
  | app input =>
    simp only [queuedStep] at hstep
    split at hstep
    · obtain ⟨t, ht, hstep⟩ := Option.bind_eq_some_iff.mp hstep
      cases hstep
      -- What a local input writes is what it was given.
      obtain ⟨htext, -, -⟩ := ends_of_isLocal ‹_› (appTurn_cases ht).1
      refine h.app (.input input) ht rfl rfl ?_
      cases hgiven : givenText input <;> simpa [givenInputs, hgiven] using htext
    · cases hstep
  | handle turn =>
    simp only [queuedStep] at hstep
    split at hstep
    · cases hstep
    · rename_i line lines hlines
      obtain ⟨t, ht, hstep⟩ := Option.bind_eq_some_iff.mp hstep
      cases hstep
      obtain ⟨sofia, hturn, hssc, -⟩ := sofiaTurn_cases ht
      -- The line in front is asked for, as far as its address is valid.
      obtain ⟨hasked, hmessages⟩ := asked_of_line hread h.distinct hturn
      have hdistinct : Distinct t.sofia.ssc :=
        (distinct_sofiaStep h.distinct hturn).of_eq (by rw [hssc])
      refine h.sofia [_] [line] hlines (sofiaTurn_history ht) hdistinct rfl rfl rfl ?_ ?_ <;>
        rw [hssc]
      · simpa using hasked
      · intro made
        rw [hmessages made]
        cases hline : lineMessage env line <;> simp [hline]
  | stack alloc nh e =>
    obtain ⟨t, ht, hstep⟩ := Option.bind_eq_some_iff.mp hstep
    cases hstep
    obtain ⟨sofia, hturn, hssc, -⟩ := sofiaTurn_cases ht
    -- An event or a new pass asks for no message of its own.
    have hasked := asked_of_event h.distinct hturn
    have hdistinct : Distinct t.sofia.ssc :=
      (distinct_sofiaStep h.distinct hturn).of_eq (by rw [hssc])
    refine h.sofia [_] [] rfl (sofiaTurn_history ht) hdistinct rfl rfl rfl ?_ ?_ <;> rw [hssc]
    · simp [hasked]
    · exact fun made => messagesTo_silent made hasked
  | nextPass alloc =>
    obtain ⟨t, ht, hstep⟩ := Option.bind_eq_some_iff.mp hstep
    cases hstep
    obtain ⟨⟨cli, hsofia⟩, -⟩ := nextPass_cases ht
    obtain ⟨-, hasked⟩ := ends_of_create env alloc cli
    refine h.sofia [] [] rfl (nextPass_history ht) ?_ rfl rfl rfl ?_ ?_ <;> rw [hsofia]
    · exact distinct_create cli
    · simp [hasked]
    · exact fun made => messagesTo_silent made hasked
  | dispatch active =>
    simp only [queuedStep] at hstep
    split at hstep
    · cases hstep
    · obtain ⟨t, ht, hstep⟩ := Option.bind_eq_some_iff.mp hstep
      cases hstep
      -- Handling a reply writes no message.
      obtain ⟨htext, -, -⟩ := ends_of_reply (appTurn_cases ht).1
      refine h.app (.dispatched _) ht rfl rfl ?_
      rw [htext]
      exact List.nil_sublist _

end Queues

/-! ### Runs of the system with pipes -/

section Runs
variable {env : SscEnv} {jsonObject : CString → Option NSDictionary} {alloc : Alloc} {app : App}
  {cli : Cli} {is : List WiredInput} {s' : Wired}

/-- What the App reads out of a text is the message, when there is no bar in it. -/
theorem readText_text {m : ReceivedMessage} (hsender : '|' ∉ m.sender) (hbody : '|' ∉ m.body) :
    readText m.text = (m.body, usernameFromUri (some m.sender)) := by
  have hfront : ∀ c ∈ m.sender, decide (c ≠ '|') = true := fun c hc =>
    decide_eq_true fun heq => hsender (heq ▸ hc)
  have hbehind : ∀ c ∈ m.body, decide (c ≠ '|') = true := fun c hc =>
    decide_eq_true fun heq => hbody (heq ▸ hc)
  simp only [readText, ReceivedMessage.text]
  rw [List.dropWhile_append_of_pos hfront, List.takeWhile_append_of_pos hfront,
    List.dropWhile_cons_of_neg (by simp), List.takeWhile_cons_of_neg (by simp), List.append_nil,
    List.drop_one, List.tail_cons, List.takeWhile_eq_self_iff.mpr hbehind]

/-- In runs whose texts hold no `$` and whose reads end with one, the application is notified of the
text messages that the stack has received, in their order and with nothing lost, added or doubled,
up to those whose replies are still in the pipe. No text message has a bar in it, which the App
would take for the end of the sender or of the body. A message that the App cannot read, because it
does not decode or names no user, raises an exception there, and no run goes on after it. -/
theorem notified_of_run
    (hclean : AllSteps (wiredStep env jsonObject) CleanStep (Wired.start env alloc app cli) is)
    (hrun : run (wiredStep env jsonObject) (Wired.start env alloc app cli) is = some s')
    (hbars : ∀ m ∈ (stackEvents s'.threads.history).filterMap receivedMessage,
      '|' ∉ m.sender ∧ '|' ∉ m.body) :
    let notified := (notifiedEvents s'.threads.history).filterMap notifiedMessage
    let received := (stackEvents s'.threads.history).filterMap receivedMessage
    let expected := received.map fun m => (m.body, usernameFromUri (some m.sender))
    notified <+: expected ∧ (s'.toApp = [] → notified = expected) := by
  -- The invariant holds of the queued machine, which the wired one refines.
  obtain ⟨q', ⟨hcarries, hfifo⟩, h⟩ := (wired_simulates env jsonObject).invariant
    (fun q => Announces q.threads.history) (announces_start alloc app cli)
    (fun _ _ _ h hstep => announces_queuedStep h hstep)
    ⟨carries_start alloc app cli, fifo_start alloc app cli⟩ hclean hrun
  rw [hcarries.threads] at hbars ⊢
  have hexpected : ((stackEvents q'.threads.history).filterMap receivedMessage).map
      (fun m => (m.body, usernameFromUri (some m.sender)))
        = ((repliesSent q'.threads.history).filterMap announcedText).map readText := by
    rw [h.received, List.map_map]
    -- Without bars in it, the reply's text reads back into the sender and the body.
    exact List.map_congr_left fun m hm => (readText_text (hbars m hm).1 (hbars m hm).2).symm
  dsimp only
  rw [hexpected, h.notified, hfifo.replies, List.filterMap_append, List.map_append]
  refine ⟨List.prefix_append _ _, fun hempty => ?_⟩
  -- An empty pipe leaves no reply to dispatch.
  rw [hcarries.toApp, sentBytes_eq_nil_iff] at hempty
  simp [hempty]

/-- One message from carol, notified once. -/
theorem notified_of_run_chat :
    (notifiedEvents chatted.threads.history).filterMap notifiedMessage
      = [("yo".toList, some "carol".toList)] := by
  refine ((notified_of_run clean_chat run_chat ?_).2 ?_).trans ?_ <;> decide +kernel

/-- In such runs the application is notified of one connection at most for each INVITE. -/
theorem calls_of_run
    (hclean : AllSteps (wiredStep env jsonObject) CleanStep (Wired.start env alloc app cli) is)
    (hrun : run (wiredStep env jsonObject) (Wired.start env alloc app cli) is = some s') :
    ((notifiedEvents s'.threads.history).filterMap notifiedCall).length
      ≤ ((stackEvents s'.threads.history).filterMap receivedInvite).length := by
  obtain ⟨q', ⟨hcarries, hfifo⟩, h⟩ := (wired_simulates env jsonObject).invariant
    (fun q => Announces q.threads.history) (announces_start alloc app cli)
    (fun _ _ _ h hstep => announces_queuedStep h hstep)
    ⟨carries_start alloc app cli, fifo_start alloc app cli⟩ hclean hrun
  have hsent := h.receivedCalls
  rw [hfifo.replies, List.countP_append] at hsent
  rw [hcarries.threads, h.notifiedCalls]
  omega

/-- Carol calls, and the App reads of it. -/
def callOfCarol : List WiredInput :=
  [.stack ⟨3, 3⟩ 9 (.iInvite (some
    { sipFrom := some { url := "sip:carol@x".toList, urlUser := some "carol".toList }
      hasTo := true
      payload := some "v=0".toList })), .readReplies 56 fun _ => true]

/-- The application is notified of her call, for which there was an INVITE. -/
theorem calls_of_run_carol :
    ∃ s', run (wiredStep plainEnv Json.read) chatStart callOfCarol = some s' ∧
      (notifiedEvents s'.threads.history).filterMap notifiedCall = [0] ∧
        1 ≤ ((stackEvents s'.threads.history).filterMap receivedInvite).length := by
  have hnotified : ((run (wiredStep plainEnv Json.read) chatStart callOfCarol).map fun s' =>
      (notifiedEvents s'.threads.history).filterMap notifiedCall) = some [0] := by
    decide +kernel
  obtain ⟨s', hrun, hcalls⟩ := Option.map_eq_some_iff.mp hnotified
  have hle := calls_of_run (by decide +kernel) hrun
  rw [hcalls] at hle
  exact ⟨s', hrun, hcalls, hle⟩

/-- In such runs the stack is asked for an INVITE, a CANCEL, an INFO or a MESSAGE only for a
command that the App has written, once for each command at most, in the order of the commands and
with what they give. -/
theorem asked_of_run (hread : ∀ d, jsonObject (stringifyDictionary d) = some d)
    (hclean : AllSteps (wiredStep env jsonObject) CleanStep (Wired.start env alloc app cli) is)
    (hrun : run (wiredStep env jsonObject) (Wired.start env alloc app cli) is = some s') :
    ((stackCalls s'.threads.history).filterMap asked).Sublist
      ((writtenLines s'.threads.history).flatMap lineAsks) := by
  obtain ⟨q', ⟨hcarries, -⟩, h⟩ := (wired_simulates env jsonObject).invariant (Conveys env)
    (conveys_start alloc app cli) (fun _ _ _ h hstep => conveys_queuedStep hread h hstep)
    ⟨carries_start alloc app cli, fifo_start alloc app cli⟩ hclean hrun
  obtain ⟨done, hlines, hasked, -⟩ := h.handled
  rw [hcarries.threads, hlines, List.flatMap_append]
  exact hasked.trans (List.sublist_append_left _ _)

/-- One message to bob, asked for by one line. -/
theorem asked_of_run_chat :
    [Ask.message none (some "hi".toList)].Sublist
      ((writtenLines chatted.threads.history).flatMap lineAsks) := by
  have hasked : (stackCalls chatted.threads.history).filterMap asked
      = [.message none (some "hi".toList)] := by decide +kernel
  exact hasked ▸ asked_of_run Json.read_write clean_chat run_chat

/-- In such runs the stack is asked to send the text messages that the App has written to
addresses, in their order and with nothing lost, added or doubled, up to those that are still in
the pipe; and the texts are those that the application has sent. -/
theorem messages_of_run (hread : ∀ d, jsonObject (stringifyDictionary d) = some d)
    (hclean : AllSteps (wiredStep env jsonObject) CleanStep (Wired.start env alloc app cli) is)
    (hrun : run (wiredStep env jsonObject) (Wired.start env alloc app cli) is = some s') :
    let asked := messagesTo none (stackCalls s'.threads.history)
    let written := (writtenLines s'.threads.history).filterMap (lineMessage env)
    asked <+: written ∧ (s'.toSofia = [] → asked = written) ∧
      (asked.filterMap (·.msg)).Sublist ((givenInputs s'.threads.history).filterMap givenText) := by
  obtain ⟨q', ⟨hcarries, -⟩, h⟩ := (wired_simulates env jsonObject).invariant (Conveys env)
    (conveys_start alloc app cli) (fun _ _ _ h hstep => conveys_queuedStep hread h hstep)
    ⟨carries_start alloc app cli, fifo_start alloc app cli⟩ hclean hrun
  -- What was asked for is what the handled lines say, and the rest is still queued.
  obtain ⟨done, hlines, -, hmessages⟩ := h.handled
  dsimp only
  rw [hcarries.threads, hmessages]
  have hwritten : (writtenLines q'.threads.history).filterMap (lineMessage env)
      = done.filterMap (lineMessage env) ++ q'.lines.filterMap (lineMessage env) := by
    rw [hlines, List.filterMap_append]
  refine ⟨⟨_, hwritten.symm⟩, fun hempty => ?_, ?_⟩
  · have hnone : q'.lines = [] := by
      -- An empty pipe holds no line.
      cases hq : q'.lines with
      | nil => rfl
      | cons line lines => simp [hcarries.toSofia, hq] at hempty
    simp [hwritten, hnone]
  · refine (sublist_lineText env done).trans (List.Sublist.trans ?_ h.given)
    rw [hlines, List.filterMap_append]
    exact List.sublist_append_left _ _

/-- One message to bob, with the text that was given. -/
theorem messages_of_run_chat :
    messagesTo none (stackCalls chatted.threads.history)
      = [{ destination := some "sip:bob@x".toList, headers := none, msg := some "hi".toList }] := by
  refine ((messages_of_run Json.read_write clean_chat run_chat).2.1 ?_).trans ?_ <;>
    decide +kernel

end Runs

end RestCommSdk.Proofs
