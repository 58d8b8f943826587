import GameClient.Text.Blank
import GameClient.Text.Inspect
import GameClient.Text.Numeral
import GameClient.Decimal.Shortest
import GameClient.Json.Reader
import GameClient.Json.Payload
import GameClient.Error
import GameClient.Cell.Board
import GameClient.Latch.Holding
import GameClient.Registry
import GameClient.Session
import GameClient.Purchase
import GameClient.Chat.Digest
import GameClient.Chat.Feed
import GameClient.Gateway.Scripted
import GameClient.Gateway.Traffic
import GameClient.Config
import GameClient.Client
import GameClient.Wire.Chat
import GameClient.Wire.Registry
import GameClient.Wire.Session
import GameClient.Wire.Purchase
import GameClient.Wire.Config
import GameClient.Toml.Document
import GameClient.Main
import GameClient.Rehearsal
import GameClient.Proofs.KnownGames
import GameClient.Proofs.DistinctGames
import GameClient.Proofs.Turns
import GameClient.Proofs.Steps
import GameClient.Proofs.Exclusion
import GameClient.Proofs.History
import GameClient.Proofs.Stranding
import GameClient.Proofs.Tickets
import GameClient.Proofs.Abandoning
import GameClient.Proofs.Replay
import GameClient.Proofs.Credentials
import GameClient.Proofs.LastError
import GameClient.Proofs.Selection
import GameClient.Proofs.Tasks
import GameClient.Proofs.LostUpdates
import GameClient.Proofs.Rejection
import GameClient.Proofs.Atomicity
import GameClient.Proofs.Standing
import GameClient.Proofs.Notifications
import GameClient.Proofs.Trimming
import GameClient.Proofs.AllowedCalls
import GameClient.Proofs.OfferedFinalize
import GameClient.Proofs.AlikeTurns
import GameClient.Proofs.Ownership
import GameClient.Proofs.Secrecy
import GameClient.Proofs.RegistryEdits
import GameClient.Proofs.SnapshotDigests
import GameClient.Proofs.Reordering
import GameClient.Proofs.WireForms
import GameClient.Proofs.Offline
import GameClient.Proofs.Reconciliation
import GameClient.Proofs.ChatViews
import GameClient.Proofs.RegistryVersions
import GameClient.Proofs.NewMessages
import GameClient.Proofs.FormLoading
import GameClient.Proofs.OfferAccounts
import GameClient.Proofs.Alarms
import GameClient.Proofs.Lasting
import GameClient.Proofs.Guards
import GameClient.Proofs.GateQueues
import GameClient.Proofs.CallHistory
import GameClient.Proofs.HeldCalls
import GameClient.Proofs.CallsInTurn
import GameClient.Proofs.CleanRequests
import GameClient.Proofs.Numerals
import GameClient.Proofs.Overrides
import GameClient.Proofs.Subscriptions
