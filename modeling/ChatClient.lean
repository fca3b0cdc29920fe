import ChatClient.Backend.Script
import ChatClient.Main
import ChatClient.Proofs.Admission
import ChatClient.Proofs.AfterLogout
import ChatClient.Proofs.Answered
import ChatClient.Proofs.ConfiguredOrigins
import ChatClient.Proofs.Distinct
import ChatClient.Proofs.EntryTimes
import ChatClient.Proofs.FetchedOnce
import ChatClient.Proofs.FramedTokens
import ChatClient.Proofs.Isolation
import ChatClient.Proofs.LateLogins
import ChatClient.Proofs.Ledger
import ChatClient.Proofs.ListedEntries
import ChatClient.Proofs.LoadedHistory
import ChatClient.Proofs.Loading
import ChatClient.Proofs.LostSessions
import ChatClient.Proofs.NewestFirst
import ChatClient.Proofs.Overlaps
import ChatClient.Proofs.OwnerOnly
import ChatClient.Proofs.PastEntries
import ChatClient.Proofs.Pending
import ChatClient.Proofs.ReplyOrder
import ChatClient.Proofs.RequestOrigins
import ChatClient.Proofs.Requests
import ChatClient.Proofs.Retrying
import ChatClient.Proofs.SameAnswers
import ChatClient.Proofs.Settling
import ChatClient.Proofs.SignedOut
import ChatClient.Proofs.WholeLogins
import ChatClient.Token.Mint
import ChatClient.Proofs.HistoryLines
import ChatClient.Proofs.ShownNumbers
import ChatClient.Proofs.LastLines
import ChatClient.Proofs.LineRequests
import ChatClient.Proofs.MintedTokens
import ChatClient.Proofs.ShownStatus
import ChatClient.Proofs.Overrides
import ChatClient.Proofs.Snippets
import ChatClient.Proofs.Headers
import ChatClient.Proofs.UnbrokenSessions
import ChatClient.Proofs.ScriptedReplies
