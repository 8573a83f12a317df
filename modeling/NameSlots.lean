import NameSlots.Main
import NameSlots.Proofs.Cli.Arguments
import NameSlots.Proofs.Cli.Commands
import NameSlots.Proofs.Cli.Failing
import NameSlots.Proofs.Cli.Saving
import NameSlots.Proofs.Json.Line
import NameSlots.Proofs.Json.Reading
import NameSlots.Proofs.Json.Writing
import NameSlots.Proofs.Key.Decoding
import NameSlots.Proofs.Key.Lookup
import NameSlots.Proofs.Key.References
import NameSlots.Proofs.Key.Reflagged
import NameSlots.Proofs.Key.Refusal
import NameSlots.Proofs.Key.Runs
import NameSlots.Proofs.Key.Shares
import NameSlots.Proofs.Key.Tiling
import NameSlots.Proofs.Logs.ReadBack
import NameSlots.Proofs.Logs.Refusal
import NameSlots.Proofs.Logs.Summary
import NameSlots.Proofs.Logs.Totals
import NameSlots.Proofs.Names.Calls
import NameSlots.Proofs.Names.Canonical
import NameSlots.Proofs.Names.Cutting
import NameSlots.Proofs.Names.Frame
import NameSlots.Proofs.Names.Memory
import NameSlots.Proofs.Names.Runs
import NameSlots.Proofs.Names.Saving
import NameSlots.Proofs.Names.StoreData
import NameSlots.Proofs.Rules.Data
import NameSlots.Proofs.Rules.Refusal
import NameSlots.Proofs.Rules.Resolve
import NameSlots.Proofs.Rules.Source
import NameSlots.Proofs.Rules.Summary
import NameSlots.Proofs.Service.Limits
import NameSlots.Proofs.Service.Log
import NameSlots.Proofs.Service.Plan
import NameSlots.Proofs.Service.Replies
import NameSlots.Proofs.Service.Status
import NameSlots.Proofs.Service.Traffic
import NameSlots.Proofs.Surfaces
import NameSlots.Proofs.Template
import NameSlots.Proofs.Text.Lines
import NameSlots.Proofs.Text.Utf8
import NameSlots.Service.Exchange
