import WalletPolicy.Address
import WalletPolicy.Selector

namespace WalletPolicy

/-- A proposed call. Its `wallet` is what the proposer says and is trusted for nothing. -/
structure Intent where
  chainId : UInt64
  wallet : Address
  target : Address
  value : UInt64
  calldata : Bytes
  deriving DecidableEq, Inhabited

namespace Intent

def selector? (intent : Intent) : Option Selector := Selector.ofCalldata? intent.calldata

def isNativeTransfer (intent : Intent) : Bool := intent.calldata.isEmpty

end Intent

end WalletPolicy
