import ChatRules.Main
import ChatRules.Pattern.Reader
import ChatRules.Store.Schema
import ChatRules.Proofs.JsonText
import ChatRules.Proofs.WireForm
import ChatRules.Proofs.RowForm
import ChatRules.Proofs.FileText
import ChatRules.Proofs.ColumnCheck
import ChatRules.Proofs.OrderedTable
import ChatRules.Proofs.Isolation
import ChatRules.Proofs.Feedback
import ChatRules.Proofs.Intent
import ChatRules.Proofs.Session
import ChatRules.Proofs.Deeds
import ChatRules.Proofs.StoreCalls
import ChatRules.Proofs.Interchange
import ChatRules.Proofs.Standing
import ChatRules.Proofs.Authored
import ChatRules.Proofs.Fresh
import ChatRules.Proofs.Previews
import ChatRules.Proofs.Boundaries
import ChatRules.Proofs.Clauses
import ChatRules.Proofs.Fragments
import ChatRules.Proofs.CanonicalReading
import ChatRules.Proofs.Canonical
import ChatRules.Proofs.WrittenRules
import ChatRules.Proofs.RawCalls
import ChatRules.Proofs.NamedRoom
import ChatRules.Proofs.JoinedSentences
import ChatRules.Proofs.CalendarDates
import ChatRules.Proofs.InstantText
import ChatRules.Proofs.Outages
import ChatRules.Proofs.WireRoundTrip
import ChatRules.Proofs.Effect
import ChatRules.Proofs.Contents
import ChatRules.Proofs.Workable
import ChatRules.Proofs.TriggerMeaning
import ChatRules.Proofs.FinalSigma
import ChatRules.Proofs.DirectMessages
import ChatRules.Proofs.Interleavings
import ChatRules.Proofs.Migrations
import ChatRules.Proofs.Accounts
import ChatRules.Proofs.Approval
import ChatRules.Proofs.Openers
import ChatRules.Proofs.UnreadableRows
import ChatRules.Proofs.OwnUser
import ChatRules.Proofs.ReadBack
import ChatRules.Proofs.Occurrences
import ChatRules.Proofs.PlainForm
import ChatRules.Proofs.Connectives
import ChatRules.Proofs.ScopedRules
import ChatRules.Proofs.LineForm
import ChatRules.Proofs.QuotedRuns
import ChatRules.Proofs.CreateArguments
