import WalletPolicy.Address
import WalletPolicy.Amount

namespace WalletPolicy

inductive QuoteError where
  | unavailable (chainId : UInt64)
  | failed (message : String)
  | timeout (millis : UInt64)
  | zero
  deriving DecidableEq

def QuoteError.message : QuoteError → String
  | .unavailable chainId => s!"no quoter available on chain {chainId.toNat}"
  | .failed message => s!"quote rpc failed: {message}"
  | .timeout millis => s!"quote timed out after {millis.toNat}ms"
  | .zero => "quoter returned zero output"

structure QuoteRequest where
  chainId : UInt64
  tokenIn : Address
  tokenOut : Address
  amountIn : UInt64
  fee : UInt32
  deriving DecidableEq

abbrev QuoteAnswer := Except QuoteError UInt64

/-- A source of quotes. Its answers depend on nothing but the request. -/
structure QuoteSource where
  answer : QuoteRequest → QuoteAnswer
  delay : QuoteRequest → UInt64  -- milliseconds

namespace QuoteSource

def waiting (source : QuoteSource) (timeout : UInt64) (request : QuoteRequest) : Nat :=
  min (source.delay request).toNat timeout.toNat

/-- How a request ends: an answer as late as the timeout still counts. -/
def outcome (source : QuoteSource) (timeout : UInt64) (request : QuoteRequest) : QuoteAnswer :=
  if (source.delay request).toNat ≤ timeout.toNat then source.answer request
  else .error (.timeout timeout)

end QuoteSource

def refuseZero : QuoteAnswer → QuoteAnswer
  | .ok quote => if quote = 0 then .error .zero else .ok quote
  | .error e => .error e

/-! ## Slippage -/

namespace Slippage

/-- How far `least` lies below `quote`, in basis points of the quote. The product is of 128 bits and
the result of 32; one that is too large is the greatest there is. -/
def points (quote least : UInt64) : UInt32 :=
  if quote = 0 ∨ quote ≤ least then 0
  else
    let shortfall := Amount.sub quote least
    let scaled := min (shortfall.toNat * 10000) (Nat.pow 2 128 - 1)
    UInt32.ofNat (min (scaled / quote.toNat) (UInt32.size - 1))

inductive Check where
  | within (points : UInt32)
  | exceeds (points limit : UInt32)
  deriving DecidableEq

namespace Check

def found : Check → UInt32
  | .within points => points
  | .exceeds points _ => points

def isWithin : Check → Bool
  | .within _ => true
  | .exceeds .. => false

def message : Check → String
  | .within points => s!"slippage {Amount.basisPoints points} within limit"
  | .exceeds points limit =>
    s!"Slippage {Amount.basisPoints points} exceeds limit {Amount.basisPoints limit}"

end Check

def check (quote least : UInt64) (limit : UInt32) : Check :=
  let found := points quote least
  if limit < found then .exceeds found limit else .within found

end Slippage

end WalletPolicy
