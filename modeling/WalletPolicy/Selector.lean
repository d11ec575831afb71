import WalletPolicy.Digest

namespace WalletPolicy

structure Selector where
  bytes : FixedBytes 4
  deriving DecidableEq, Inhabited

namespace Selector

def ofNat (n : Nat) : Selector := ⟨.ofNat n⟩

def toBytes (selector : Selector) : Bytes := selector.bytes.toBytes

def ofBytes? (data : Bytes) : Option Selector := (FixedBytes.ofBytes? data).map Selector.mk

theorem ofBytes?_eq_some_iff {data : Bytes} {selector : Selector} :
    ofBytes? data = some selector ↔ data = selector.toBytes :=
  FixedBytes.map_ofBytes?_eq_some_iff (fun _ => rfl) fun _ => rfl

def ofCalldata? (calldata : Bytes) : Option Selector := ofBytes? (calldata.take 4)

def ofSignature (signature : String) : Selector :=
  ⟨(Digest.of (utf8 signature.toList)).leading⟩

def toDigits (selector : Selector) : String := Hex.encode selector.toBytes

def toHex (selector : Selector) : String := Hex.encodePrefixed selector.toBytes

def describe (selector : Selector) : String := s!"Selector({selector.toHex})"

def tokenTransfer : Selector := .ofNat 0xa9059cbb  -- transfer(address,uint256)

def tokenApprove : Selector := .ofNat 0x095ea7b3  -- approve(address,uint256)

def routerExecute : Selector := .ofNat 0x3593564c  -- execute(bytes,bytes[],uint256)

def wrapDeposit : Selector := .ofNat 0xd0e30db0  -- deposit()

def wrapWithdraw : Selector := .ofNat 0x2e1a7d4d  -- withdraw(uint256)

def poolSupply : Selector := .ofNat 0x617ba037  -- supply(address,uint256,address,uint16)

def poolWithdraw : Selector := .ofNat 0x69328dec  -- withdraw(address,uint256,address)

end Selector

/-- A selector that may hand open-ended control over assets to somebody else. -/
structure BlockedSelector where
  selector : Selector
  signature : String
  deriving DecidableEq

namespace BlockedSelector

def all : List BlockedSelector :=
  [⟨.ofNat 0x095ea7b3, "approve(address,uint256)"⟩,
    ⟨.ofNat 0x39509351, "increaseAllowance(address,uint256)"⟩,
    ⟨.ofNat 0xa22cb465, "setApprovalForAll(address,bool)"⟩,
    ⟨.ofNat 0xd505accf, "permit(address,address,uint256,uint256,uint8,bytes32,bytes32)"⟩,
    ⟨.ofNat 0x8fcbaf0c, "permit(address,address,uint256,uint256,bool,uint8,bytes32,bytes32)"⟩,
    ⟨.ofNat 0x87517c45, "approve(address,address,uint160,uint48)"⟩,
    ⟨.ofNat 0x2b67b570,
      "permit(address,((address,uint160,uint48,uint48),address,uint256),bytes)"⟩,
    ⟨.ofNat 0x2a2d80d1,
      "permit(address,((address,uint160,uint48,uint48)[],address,uint256),bytes)"⟩]

def find? (selector : Selector) : Option BlockedSelector :=
  all.find? fun entry => entry.selector == selector

def ofCalldata? (calldata : Bytes) : Option BlockedSelector :=
  (Selector.ofCalldata? calldata).bind find?

end BlockedSelector

end WalletPolicy
