import WalletPolicy.Amount

namespace WalletPolicy

inductive LimitViolation where
  | perTxNative (amount cap : UInt64)
  | perTxStablecoin (amount cap : UInt64)
  | dailyNative (spent amount cap : UInt64)
  | dailyStablecoin (spent amount cap : UInt64)
  | hourlyRate (count : UInt64) (limit : UInt32)
  | cooldown (remainingSecs : Int64)
  deriving DecidableEq

def LimitViolation.message : LimitViolation → String
  | .perTxNative amount cap =>
    s!"ETH amount {Amount.native amount} exceeds per-tx cap {Amount.native cap}"
  | .perTxStablecoin amount cap =>
    s!"Stablecoin amount {Amount.stablecoin amount} exceeds per-tx cap {Amount.stablecoin cap}"
  | .dailyNative spent amount cap =>
    s!"Daily ETH cap exceeded: {Amount.native spent} spent + {Amount.native amount} > " ++
      Amount.native cap
  | .dailyStablecoin spent amount cap =>
    s!"Daily stablecoin cap exceeded: {Amount.stablecoin spent} spent + " ++
      s!"{Amount.stablecoin amount} > {Amount.stablecoin cap}"
  | .hourlyRate count limit =>
    s!"Hourly transaction limit reached ({count.toNat}/{limit.toNat})"
  | .cooldown remainingSecs => s!"Cooldown active: wait {remainingSecs.toInt}s"

inductive SpendCheck where
  | allowed
  | denied (violation : LimitViolation)
  deriving DecidableEq

namespace SpendCheck

def isAllowed : SpendCheck → Bool
  | .allowed => true
  | .denied _ => false

def violation? : SpendCheck → Option LimitViolation
  | .allowed => none
  | .denied violation => some violation

def message : SpendCheck → String
  | .allowed => "within spending limits"
  | .denied violation => violation.message

end SpendCheck

structure Budgets where
  native : UInt64
  stablecoin : UInt64
  deriving DecidableEq

end WalletPolicy
