import WalletPolicy.Guard.Diagnostics
import WalletPolicy.Json.Call
import WalletPolicy.Json.Logging
import WalletPolicy.Json.Policy
import WalletPolicy.Settings.Load
import WalletPolicy.Settings.Policy
import WalletPolicy.UserOperation
import WalletPolicy.Proofs.Guard.Authorization
import WalletPolicy.Proofs.Abi.Layout
import WalletPolicy.Proofs.Approval.History
import WalletPolicy.Proofs.Approval.Redemption
import WalletPolicy.Proofs.Guard.WrapInputs
import WalletPolicy.Proofs.Spending.InFlight
import WalletPolicy.Proofs.Spending.Answers
import WalletPolicy.Proofs.Approval.Archive
import WalletPolicy.Proofs.Guard.Linearization
import WalletPolicy.Proofs.Swap.RoundTrip
import WalletPolicy.Proofs.Approval.Guessing
import WalletPolicy.Proofs.Guard.Monotonicity
import WalletPolicy.Proofs.Settings.Enforcement
import WalletPolicy.Proofs.Settings.Precedence
import WalletPolicy.Proofs.Approval.Binding
import WalletPolicy.Proofs.Signing
import WalletPolicy.Proofs.Spending.Days
import WalletPolicy.Proofs.Settings.Defaults
import WalletPolicy.Proofs.Guard.Freezing
import WalletPolicy.Proofs.Guard.TokenTransfers
import WalletPolicy.Proofs.Spending.Headroom
import WalletPolicy.Proofs.Spending.Refreshing
import WalletPolicy.Proofs.Guard.Observation
import WalletPolicy.Proofs.Approval.Listing
import WalletPolicy.Proofs.Spending.Cooldown
import WalletPolicy.Proofs.Settings.Leaves
import WalletPolicy.Proofs.Settings.Sources
import WalletPolicy.Proofs.Settings.Variables
import WalletPolicy.Proofs.Swap.Trailing
import WalletPolicy.Proofs.Text.Spellings
import WalletPolicy.Proofs.Abi.Readers
import WalletPolicy.Proofs.Abi.Bounds
import WalletPolicy.Proofs.Approval.Attempts
import WalletPolicy.Proofs.Json.Lossless
import WalletPolicy.Proofs.Json.Lossless
