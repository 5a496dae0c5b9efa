import VaultKeeper.Abi
import VaultKeeper.Account
import VaultKeeper.Alert
import VaultKeeper.Bytes
import VaultKeeper.Checksum
import VaultKeeper.Clock
import VaultKeeper.Contract
import VaultKeeper.Decimal.Literal
import VaultKeeper.Decimal.Nearest
import VaultKeeper.Decimal.Shortest
import VaultKeeper.Delivery.Basic
import VaultKeeper.Delivery.Courier
import VaultKeeper.Environment.Basic
import VaultKeeper.Environment.File
import VaultKeeper.Event
import VaultKeeper.Failure
import VaultKeeper.Fee
import VaultKeeper.Fee.Source
import VaultKeeper.Hex
import VaultKeeper.Http.Basic
import VaultKeeper.Http.Url
import VaultKeeper.Journal
import VaultKeeper.Json.Basic
import VaultKeeper.Json.Reader
import VaultKeeper.Json.Writer
import VaultKeeper.Keccak
import VaultKeeper.Keeper.Action
import VaultKeeper.Keeper.Cycle
import VaultKeeper.Keeper.Step
import VaultKeeper.Keeper.Task
import VaultKeeper.Log.Basic
import VaultKeeper.Log.Filter
import VaultKeeper.Main
import VaultKeeper.Plan
import VaultKeeper.Poll
import VaultKeeper.Position
import VaultKeeper.Program
import VaultKeeper.Quote.Aggregator
import VaultKeeper.Quote.Basic
import VaultKeeper.Quote.Route
import VaultKeeper.Quote.Selection
import VaultKeeper.Rehearsal.Basic
import VaultKeeper.Rehearsal.Folder
import VaultKeeper.Rehearsal.Machine
import VaultKeeper.Rehearsal.Network
import VaultKeeper.Rehearsal.Script
import VaultKeeper.Retry
import VaultKeeper.Rpc.Basic
import VaultKeeper.Rpc.ChainReader
import VaultKeeper.Rpc.Race
import VaultKeeper.Rpc.Reply
import VaultKeeper.Rpc.Value
import VaultKeeper.Secp256k1
import VaultKeeper.Sender
import VaultKeeper.Service.Basic
import VaultKeeper.Service.Host
import VaultKeeper.Service.Relay
import VaultKeeper.Service.Startup
import VaultKeeper.Settings.Basic
import VaultKeeper.Settings.Check
import VaultKeeper.Settings.Document
import VaultKeeper.Settings.Load
import VaultKeeper.Settings.Override
import VaultKeeper.Text.Alphanumeric
import VaultKeeper.Text.Amount
import VaultKeeper.Text.Basic
import VaultKeeper.Text.Printable
import VaultKeeper.Toml.Basic
import VaultKeeper.Toml.Draft
import VaultKeeper.Toml.Lexeme
import VaultKeeper.Toml.Moment
import VaultKeeper.Toml.Number
import VaultKeeper.Toml.Reader
import VaultKeeper.Toml.Record
import VaultKeeper.Vault
import VaultKeeper.Proofs.Poll
import VaultKeeper.Proofs.Poll.Ticks
import VaultKeeper.Proofs.Program.Agreement
import VaultKeeper.Proofs.Program.Basic
import VaultKeeper.Proofs.Delivery.Submission
import VaultKeeper.Proofs.Delivery.Course
import VaultKeeper.Proofs.Delivery.Outcome
import VaultKeeper.Proofs.Delivery.Broadcasts
import VaultKeeper.Proofs.Delivery.Fees
import VaultKeeper.Proofs.Delivery.Vigil
import VaultKeeper.Proofs.Delivery.Watch
import VaultKeeper.Proofs.Delivery.Rounds
import VaultKeeper.Proofs.Contract
import VaultKeeper.Proofs.Fee
import VaultKeeper.Proofs.Quote.Selection
import VaultKeeper.Proofs.Keeper.Cooldown
import VaultKeeper.Proofs.Keeper.Consumption
import VaultKeeper.Proofs.Keeper.Resolution
import VaultKeeper.Proofs.Keeper.Gate
import VaultKeeper.Proofs.Keeper.Journey
import VaultKeeper.Proofs.Keeper.Accounting
import VaultKeeper.Proofs.Keeper.Notices
import VaultKeeper.Proofs.Keeper.Round
import VaultKeeper.Proofs.Service.Nonce
import VaultKeeper.Proofs.Keeper.Episodes
import VaultKeeper.Proofs.Keeper.Isolation
import VaultKeeper.Proofs.Delivery.Resync
import VaultKeeper.Proofs.Service.Succession
import VaultKeeper.Proofs.Keeper.Life
import VaultKeeper.Proofs.Keeper.Shutdown
import VaultKeeper.Proofs.Delivery.Substitution
import VaultKeeper.Proofs.Position.Percent
import VaultKeeper.Proofs.Position.Gates
import VaultKeeper.Proofs.Fee.Cache
import VaultKeeper.Proofs.Fee.Fallback
import VaultKeeper.Proofs.Fee.Sum
import VaultKeeper.Proofs.Toml.Keys
import VaultKeeper.Proofs.Toml.Merge
import VaultKeeper.Proofs.Toml.Path
import VaultKeeper.Proofs.Hex
import VaultKeeper.Proofs.Settings.Fields
import VaultKeeper.Proofs.Settings.Layers
import VaultKeeper.Proofs.Settings.Override
import VaultKeeper.Proofs.Settings.Precedence
import VaultKeeper.Proofs.Abi.Layout
import VaultKeeper.Proofs.Contract.Arguments
import VaultKeeper.Proofs.Keccak
import VaultKeeper.Proofs.Event
import VaultKeeper.Proofs.Text.Amount
import VaultKeeper.Proofs.Quote.Route
import VaultKeeper.Proofs.Quote.Agreement
import VaultKeeper.Proofs.Retry
import VaultKeeper.Proofs.Delivery.Clearing
import VaultKeeper.Proofs.Delivery.Waiting
import VaultKeeper.Proofs.Quote.Classification
import VaultKeeper.Proofs.Delivery.Surrender
import VaultKeeper.Proofs.Alert
import VaultKeeper.Proofs.Vault
import VaultKeeper.Proofs.Rpc.ChainReader
