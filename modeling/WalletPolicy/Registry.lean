import WalletPolicy.Address
import WalletPolicy.Selector

namespace WalletPolicy

structure ProtocolMethod where
  protocol : String
  method : String
  deriving DecidableEq, Inhabited

structure Registries where
  isStablecoin : UInt64 → Address → Bool
  method? : UInt64 → Address → Selector → Option ProtocolMethod

def mainnet : UInt64 := 1

def base : UInt64 := 8453

/-! ## Stablecoins -/

structure StablecoinTable where
  entries : List (UInt64 × Address)

namespace StablecoinTable

def empty : StablecoinTable := ⟨[]⟩

def add (table : StablecoinTable) (chainId : UInt64) (token : Address) : StablecoinTable :=
  if (chainId, token) ∈ table.entries then table else ⟨table.entries ++ [(chainId, token)]⟩

def contains (table : StablecoinTable) (chainId : UInt64) (token : Address) : Bool :=
  (chainId, token) ∈ table.entries

def builtIn : StablecoinTable :=
  (empty.add mainnet (.ofNat 0xa0b86991c6218b36c1d19d4a2e9eb0ce3606eb48)).add
    base (.ofNat 0x833589fcd6edb6e08f4c7c32d4f71b54bda02913)

end StablecoinTable

/-! ## Protocol methods -/

structure ProtocolKey where
  chainId : UInt64
  target : Address
  selector : Selector
  deriving DecidableEq

structure ProtocolTable where
  entries : List (ProtocolKey × ProtocolMethod)

namespace ProtocolTable

def empty : ProtocolTable := ⟨[]⟩

def add (table : ProtocolTable) (key : ProtocolKey) (method : ProtocolMethod) : ProtocolTable :=
  ⟨table.entries.filter (fun entry => entry.1 != key) ++ [(key, method)]⟩

def addAll (table : ProtocolTable) (entries : List (ProtocolKey × ProtocolMethod)) :
    ProtocolTable :=
  entries.foldl (fun table entry => table.add entry.1 entry.2) table

def find? (table : ProtocolTable) (key : ProtocolKey) : Option ProtocolMethod :=
  table.entries.lookup key

def allows (table : ProtocolTable) (key : ProtocolKey) : Bool := (table.find? key).isSome

def size (table : ProtocolTable) : Nat := table.entries.length

def router : Address := .ofNat 0x3fc91a3afd70395cd496c647d5a6cc9d4b2b7fad

def wrappedMainnet : Address := .ofNat 0xc02aaa39b223fe8d0a0e5c4f27ead9083c756cc2

def wrappedBase : Address := .ofNat 0x4200000000000000000000000000000000000006

def poolMainnet : Address := .ofNat 0x87870bca3f3fd6335c3f4ce8392d69350b4fa4e2

def poolBase : Address := .ofNat 0xa238dd80c259a72e81d7e4664a9801593f98d1c5

def commonEntries (chainId : UInt64) (wrapped : Address) :
    List (ProtocolKey × ProtocolMethod) :=
  [(⟨chainId, router, .routerExecute⟩, ⟨"Uniswap", "execute"⟩),
    (⟨chainId, wrapped, .wrapDeposit⟩, ⟨"WETH", "deposit"⟩),
    (⟨chainId, wrapped, .wrapWithdraw⟩, ⟨"WETH", "withdraw"⟩)]

def poolEntries (chainId : UInt64) (pool : Address) : List (ProtocolKey × ProtocolMethod) :=
  [(⟨chainId, pool, .poolSupply⟩, ⟨"Aave v3", "supply"⟩),
    (⟨chainId, pool, .poolWithdraw⟩, ⟨"Aave v3", "withdraw"⟩)]

def forProfile (name : String) : ProtocolTable :=
  let common :=
    empty.addAll (commonEntries mainnet wrappedMainnet ++ commonEntries base wrappedBase)
  if name = "autonomous" then
    common.addAll (poolEntries mainnet poolMainnet ++ poolEntries base poolBase)
  else common

end ProtocolTable

def Registries.ofTables (stablecoins : StablecoinTable) (protocols : ProtocolTable) :
    Registries where
  isStablecoin := stablecoins.contains
  method? chainId target selector := protocols.find? ⟨chainId, target, selector⟩

end WalletPolicy
