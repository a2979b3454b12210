import RepoFeed.Main
import RepoFeed.Proofs.Activity.NormalForm
import RepoFeed.Proofs.Activity.Sources
import RepoFeed.Proofs.CommandLine.Exit
import RepoFeed.Proofs.CommandLine.Isolation
import RepoFeed.Proofs.CommandLine.Launch
import RepoFeed.Proofs.Markup.EventDate
import RepoFeed.Proofs.Markup.Message
import RepoFeed.Proofs.Refresh.AppendOnly
import RepoFeed.Proofs.Refresh.Failure
import RepoFeed.Proofs.Refresh.Freshness
import RepoFeed.Proofs.Refresh.Indifference
import RepoFeed.Proofs.Refresh.Run
import RepoFeed.Proofs.Reply.Grammar
import RepoFeed.Proofs.Request.Address
import RepoFeed.Proofs.Request.Agreement
import RepoFeed.Proofs.Request.Delivery
import RepoFeed.Proofs.Request.Refusal
import RepoFeed.Proofs.Storage.Effect
import RepoFeed.Proofs.Storage.Interleaving
import RepoFeed.Proofs.Storage.Isolation
import RepoFeed.Proofs.Storage.Refinement
import RepoFeed.Proofs.Storage.Spelling
