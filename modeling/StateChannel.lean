import StateChannel.Bytes.Base64
import StateChannel.Bytes.Hex
import StateChannel.Bytes.Words
import StateChannel.Client.Clones
import StateChannel.Client.Exchange
import StateChannel.Client.Listening
import StateChannel.Client.PayloadChannel
import StateChannel.Client.ReceiveLoop
import StateChannel.Client.RelayClient
import StateChannel.Client.RemoteWallet
import StateChannel.Client.Request
import StateChannel.Client.Response
import StateChannel.Client.Served
import StateChannel.Client.Sharing
import StateChannel.Client.WalletDaemon
import StateChannel.Curve.Ecdsa
import StateChannel.Curve.Point
import StateChannel.Decimal.Binary64
import StateChannel.Decimal.Shortest
import StateChannel.Hash.Keccak
import StateChannel.Hash.Sha256
import StateChannel.Json.Basic
import StateChannel.Json.Decoder
import StateChannel.Json.Node
import StateChannel.Json.Render
import StateChannel.Json.Token
import StateChannel.Proofs.Bytes.Canonical
import StateChannel.Proofs.Bytes.Codecs
import StateChannel.Proofs.Bytes.HexText
import StateChannel.Proofs.Client.Clones
import StateChannel.Proofs.Client.Envelopes
import StateChannel.Proofs.Client.Listening
import StateChannel.Proofs.Client.Polls
import StateChannel.Proofs.Client.Posting
import StateChannel.Proofs.Client.Sending
import StateChannel.Proofs.Client.Sharing
import StateChannel.Proofs.Client.Wallets
import StateChannel.Proofs.Curve.Field
import StateChannel.Proofs.Curve.Group
import StateChannel.Proofs.Curve.Order
import StateChannel.Proofs.Curve.Primes
import StateChannel.Proofs.Curve.Recovery
import StateChannel.Proofs.Json.Reading
import StateChannel.Proofs.Json.Records
import StateChannel.Proofs.Json.Refining
import StateChannel.Proofs.Json.Shape
import StateChannel.Proofs.Json.Written
import StateChannel.Proofs.Relay.Accounts
import StateChannel.Proofs.Relay.Addresses
import StateChannel.Proofs.Relay.Answers
import StateChannel.Proofs.Relay.Attendance
import StateChannel.Proofs.Relay.Batches
import StateChannel.Proofs.Relay.Board
import StateChannel.Proofs.Relay.Bodies
import StateChannel.Proofs.Relay.Configurations
import StateChannel.Proofs.Relay.Durations
import StateChannel.Proofs.Relay.Entrance
import StateChannel.Proofs.Relay.ErrorObjects
import StateChannel.Proofs.Relay.Forms
import StateChannel.Proofs.Relay.Hiding
import StateChannel.Proofs.Relay.Ledger
import StateChannel.Proofs.Relay.Linearization
import StateChannel.Proofs.Relay.LongPoll
import StateChannel.Proofs.Relay.Messages
import StateChannel.Proofs.Relay.Naming
import StateChannel.Proofs.Relay.Operations
import StateChannel.Proofs.Relay.Polling
import StateChannel.Proofs.Relay.Readers
import StateChannel.Proofs.Relay.Refinement
import StateChannel.Proofs.Relay.Rejection
import StateChannel.Proofs.Relay.Schedule
import StateChannel.Proofs.Relay.Separation
import StateChannel.Proofs.Relay.Starting
import StateChannel.Proofs.Relay.Steady
import StateChannel.Proofs.Relay.Steps
import StateChannel.Proofs.Relay.Traffic
import StateChannel.Proofs.Relay.Unnoticed
import StateChannel.Proofs.Relay.Visitors
import StateChannel.Proofs.Relay.Waking
import StateChannel.Proofs.Relay.Watching
import StateChannel.Proofs.Signing.Asking
import StateChannel.Proofs.Signing.Bundle
import StateChannel.Proofs.Signing.ChannelId
import StateChannel.Proofs.Signing.Collection
import StateChannel.Proofs.Signing.Merging
import StateChannel.Proofs.Signing.Message
import StateChannel.Proofs.Signing.PersonalMessage
import StateChannel.Proofs.Signing.Transcript
import StateChannel.Proofs.Signing.Wallet
import StateChannel.Relay.ApiError
import StateChannel.Relay.Board
import StateChannel.Relay.Call
import StateChannel.Relay.Config
import StateChannel.Relay.Course
import StateChannel.Relay.Duration
import StateChannel.Relay.Entrance
import StateChannel.Relay.History
import StateChannel.Relay.Http
import StateChannel.Relay.Interleaving
import StateChannel.Relay.IpAddress
import StateChannel.Relay.Log
import StateChannel.Relay.Metrics
import StateChannel.Relay.Registry
import StateChannel.Relay.Server
import StateChannel.Relay.Slice
import StateChannel.Relay.Target
import StateChannel.Relay.Timeline
import StateChannel.Relay.Trace
import StateChannel.Relay.Traffic
import StateChannel.Signing.Address
import StateChannel.Signing.Bundle
import StateChannel.Signing.ChannelId
import StateChannel.Signing.Collection
import StateChannel.Signing.Error
import StateChannel.Signing.Message
import StateChannel.Signing.Oracle
import StateChannel.Signing.Wallet
import StateChannel.Text.Blank
import StateChannel.Text.Printable
import StateChannel.Text.Quoted
