import ReplyPipeline.Launch
import ReplyPipeline.Simulation.BrokerSession
import ReplyPipeline.Simulation.Session
import ReplyPipeline.Proofs.SingleFlight
import ReplyPipeline.Proofs.MarkedCalls
import ReplyPipeline.Proofs.PublishedTask
import ReplyPipeline.Proofs.RetryChains
import ReplyPipeline.Proofs.LockOwnership
import ReplyPipeline.Proofs.MarkedLocks
import ReplyPipeline.Proofs.Journeys
import ReplyPipeline.Proofs.Alone
import ReplyPipeline.Proofs.EventEffects
import ReplyPipeline.Proofs.KeyFamilies
import ReplyPipeline.Proofs.LiveCopies
import ReplyPipeline.Proofs.LockCover
import ReplyPipeline.Proofs.ReplayWindow
import ReplyPipeline.Proofs.Outages
import ReplyPipeline.Proofs.Resending
import ReplyPipeline.Proofs.ChannelFailures
import ReplyPipeline.Proofs.MessageBooks
import ReplyPipeline.Proofs.StoreAgreement
import ReplyPipeline.Proofs.ReplyMode
import ReplyPipeline.Proofs.ConsumeLoop
import ReplyPipeline.Proofs.Backoff
import ReplyPipeline.Proofs.DecidingFields
import ReplyPipeline.Proofs.Settlements
import ReplyPipeline.Proofs.PostedReplies
import ReplyPipeline.Proofs.DescriptiveFields
import ReplyPipeline.Proofs.FilterRules
import ReplyPipeline.Proofs.HandOutOrder
import ReplyPipeline.Proofs.PrefetchWindow
import ReplyPipeline.Proofs.ServerUrls
import ReplyPipeline.Proofs.KeyScopes
import ReplyPipeline.Proofs.SpokenChoices
import ReplyPipeline.Proofs.IdentifierForms
