import TaxLedger.Power
import TaxLedger.Block.Record
import TaxLedger.Time.Parse
import TaxLedger.BlockEvent.Chain
import TaxLedger.Node.Answer
import TaxLedger.Node.Error
import TaxLedger.Node.Url
import TaxLedger.Export
import TaxLedger.Node.Query
import TaxLedger.Pipeline.Schedule
import TaxLedger.Failure
import TaxLedger.Retry
import TaxLedger.Config.Basic
import TaxLedger.Indexer.Heights
import TaxLedger.Store.Connection
import TaxLedger.Store.Block
import TaxLedger.Store.Epoch
import TaxLedger.Store.History
import TaxLedger.Store.Layout
import TaxLedger.Listing.Record
import TaxLedger.Listing.Store
import TaxLedger.Rehearsal.Server
import TaxLedger.Rehearsal.Node
import TaxLedger.Log
import TaxLedger.Indexer.Run
import TaxLedger.Rehearsal.Record
import TaxLedger.Pipeline.Offer
import TaxLedger.CommandLine.Help
import TaxLedger.Program
import TaxLedger.Rehearsal.Script
import TaxLedger.Main
import TaxLedger.Proofs.Pipeline.Conservation
import TaxLedger.Proofs.Pipeline.Schedule
import TaxLedger.Proofs.Block.LogForms
import TaxLedger.Proofs.Block.Isolation
import TaxLedger.Proofs.BlockEvent.Preimage
import TaxLedger.Proofs.Ibc.Unwinding
import TaxLedger.Proofs.Pool.Shares
import TaxLedger.Proofs.Event.Merged
import TaxLedger.Proofs.Message.Registry
import TaxLedger.Proofs.Contract.Known
import TaxLedger.Proofs.Message.Merged
import TaxLedger.Proofs.Message.Movements
import TaxLedger.Proofs.BlockEvent.Results
import TaxLedger.Proofs.Pipeline.Chain
import TaxLedger.Proofs.Pipeline.Loss
import TaxLedger.Proofs.Pipeline.Stop
import TaxLedger.Proofs.BlockEvent.Reward
import TaxLedger.Proofs.Denom.Scaling
import TaxLedger.Proofs.Denom.Stored
import TaxLedger.Proofs.Denom.Placeholder
import TaxLedger.Proofs.Denom.Reordering
import TaxLedger.Proofs.Config.Limits
import TaxLedger.Proofs.Ibc.Refund
import TaxLedger.Proofs.Indexer.Contracts
import TaxLedger.Proofs.Decimal.Quotient
import TaxLedger.Proofs.Pool.Parts
import TaxLedger.Proofs.Denom.TransferPath
import TaxLedger.Proofs.Event.Listed
import TaxLedger.Proofs.Pool.InnerSwaps
import TaxLedger.Proofs.Pool.Payout
import TaxLedger.Proofs.Coin.List
import TaxLedger.Proofs.Node.Shown
import TaxLedger.Proofs.Event.Bookings
import TaxLedger.Proofs.Event.Gathering
import TaxLedger.Proofs.Event.TransferGroups
import TaxLedger.Proofs.Binary64.Rounding
import TaxLedger.Proofs.Retry.Waits
import TaxLedger.Proofs.Retry.Budget
import TaxLedger.Proofs.Pool.LastHop
import TaxLedger.Proofs.Pool.ContractRefund
import TaxLedger.Proofs.Export
import TaxLedger.Proofs.Denom.Catalog
import TaxLedger.Proofs.BlockEvent.Handler
import TaxLedger.Proofs.Message.Script
import TaxLedger.Proofs.Event.Action
import TaxLedger.Proofs.Node.Url
import TaxLedger.Proofs.Address.Key
import TaxLedger.Proofs.Message.CommunityGift
import TaxLedger.Proofs.Config.Environment
