import ChainIndex.Algod.Simulation
import ChainIndex.Api.Listed
import ChainIndex.Http.Script
import ChainIndex.Index.Rehearsal
import ChainIndex.Json.Writer
import ChainIndex.Service.Spawn
import ChainIndex.Proofs.Registry.Changes
import ChainIndex.Proofs.Registry.Inverse
import ChainIndex.Proofs.Registry.Slots
import ChainIndex.Proofs.Registry.Announcement
import ChainIndex.Proofs.Algod.Calls
import ChainIndex.Proofs.Algod.Rounds
import ChainIndex.Proofs.Algod.Refinement
import ChainIndex.Proofs.Algod.Agreement
import ChainIndex.Proofs.Task.Questions
import ChainIndex.Proofs.Task.Steps
import ChainIndex.Proofs.Fetch.Questions
import ChainIndex.Proofs.Index.Turn
import ChainIndex.Proofs.Index.Coverage
import ChainIndex.Proofs.Fetch.InTurn
import ChainIndex.Proofs.Fetch.Order
import ChainIndex.Proofs.Fetch.Blocks
import ChainIndex.Proofs.Algod.Derived
import ChainIndex.Proofs.Algod.Conduct
import ChainIndex.Proofs.Algod.Headers
import ChainIndex.Proofs.Algod.Leads
import ChainIndex.Proofs.Algod.Head
import ChainIndex.Proofs.Algod.Remote
import ChainIndex.Proofs.Substrate.Lookup
import ChainIndex.Proofs.Api.NotFound
import ChainIndex.Proofs.Registry.Retention
import ChainIndex.Proofs.Index.Filtering
import ChainIndex.Proofs.Index.Division
import ChainIndex.Proofs.Algod.Failure
import ChainIndex.Proofs.Api.Network
import ChainIndex.Proofs.Api.Inactive
import ChainIndex.Proofs.Substrate.Numbers
import ChainIndex.Proofs.Api.Interleaving
import ChainIndex.Proofs.Algod.Interleaving
import ChainIndex.Proofs.Connection
import ChainIndex.Proofs.Api.Connection
import ChainIndex.Proofs.Api.Orderly
import ChainIndex.Proofs.Service.Startup
import ChainIndex.Proofs.Fetch.Record
import ChainIndex.Proofs.Index.Failure
import ChainIndex.Proofs.Algod.Range
import ChainIndex.Proofs.Registry.Put
import ChainIndex.Proofs.Algod.ByNumber
import ChainIndex.Proofs.Fetch.Outcome
import ChainIndex.Proofs.Text.Hex
import ChainIndex.Proofs.Block.Hash
import ChainIndex.Proofs.Json.Members
import ChainIndex.Proofs.Json.Formats
import ChainIndex.Proofs.Index.Links
import ChainIndex.Proofs.Index.Selection
import ChainIndex.Proofs.Index.Completion
import ChainIndex.Proofs.Fetch.Moments
import ChainIndex.Proofs.Fetch.Requests
import ChainIndex.Proofs.Api.Parameter
import ChainIndex.Proofs.Api.Request
import ChainIndex.Proofs.Service.View
import ChainIndex.Proofs.Service.Versions
import ChainIndex.Proofs.Text.Base64
import ChainIndex.Proofs.Text.Numeral
import ChainIndex.Proofs.Block.Derivation
import ChainIndex.Proofs.Substrate.BlockNumber
import ChainIndex.Proofs.Algod.Refusal
import ChainIndex.Proofs.Index.Time
import ChainIndex.Proofs.Json.Omission
import ChainIndex.Proofs.Algod.Omission
