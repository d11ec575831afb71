import WalletPolicy.Abi.Item
import WalletPolicy.Intent

namespace WalletPolicy.Intent

open Abi

def items (intent : Intent) : List Item :=
  [.uint64 intent.chainId, .address intent.wallet, .address intent.target, .uint64 intent.value,
    .hashed intent.calldata]

def digest (intent : Intent) : Digest := Abi.digest intent.items

def approvalItems (intent : Intent) (expiresAt : UInt64) : List Item :=
  intent.items ++ [.uint64 0, .uint64 expiresAt]

def approvalDigest (intent : Intent) (expiresAt : UInt64) : Digest :=
  Abi.digest (intent.approvalItems expiresAt)

end WalletPolicy.Intent
