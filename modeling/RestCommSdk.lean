import RestCommSdk.Proofs.ReplyForgery
import RestCommSdk.Proofs.CommandPipe
import RestCommSdk.Proofs.AppCommands
import RestCommSdk.Proofs.LiveCalls
import RestCommSdk.Proofs.Authentication
import RestCommSdk.Proofs.DeviceStates
import RestCommSdk.Proofs.Invites
import RestCommSdk.Proofs.UpdateParams
import RestCommSdk.Proofs.StrayMedia
import RestCommSdk.Proofs.Unlistened
import RestCommSdk.Proofs.FailedRequests
import RestCommSdk.Proofs.UpdateReports
import RestCommSdk.Proofs.LastRequest
import RestCommSdk.Proofs.RestartConf
import RestCommSdk.Proofs.OneRegistration
import RestCommSdk.Proofs.BadDestinations
import RestCommSdk.Proofs.CallAnswers
import RestCommSdk.Proofs.OwnSdp
import RestCommSdk.Proofs.AppInvariants
import RestCommSdk.Proofs.FinalState
import RestCommSdk.Proofs.OneEnd
import RestCommSdk.Proofs.OwnOffer
import RestCommSdk.Proofs.FirstPipe
import RestCommSdk.Proofs.AbsentKeys
import RestCommSdk.Proofs.OperationCheck
import RestCommSdk.Proofs.HandleReferences
import RestCommSdk.Proofs.RefusedConnect
import RestCommSdk.Proofs.MissingParts
import RestCommSdk.Proofs.ReleasedSessions
import RestCommSdk.Proofs.MediaConclusion
import RestCommSdk.Proofs.OneUser
import RestCommSdk.Proofs.PushBindings
import RestCommSdk.Proofs.SchemeConversion
import RestCommSdk.Proofs.AuthQueue
import RestCommSdk.Proofs.CommandScan
import RestCommSdk.Proofs.CandidateExtraction
import RestCommSdk.Proofs.CodecPreference
import RestCommSdk.Proofs.IncomingMessages
import RestCommSdk.Proofs.PushReports
import RestCommSdk.Proofs.MediaOwner
import RestCommSdk.Proofs.MessageDelivery
import RestCommSdk.Proofs.OperationMemory
import RestCommSdk.Proofs.PushAgain
import RestCommSdk.Proofs.Usernames
import RestCommSdk.Proofs.UserCalls
import RestCommSdk.Proofs.PipeTraffic
import RestCommSdk.Proofs.Passwords
