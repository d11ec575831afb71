import WalletPolicy.Abi.Item

/-!
The digest covers the bytes `0x19 0x01`, the digest of the domain (name, version, chain, entry
point) and the digest of the operation, so a signature for one deployment has no value on another.
-/
namespace WalletPolicy

open Abi

structure UserOperation where
  sender : Address
  nonce : Word
  initCode : Bytes
  callData : Bytes
  /-- Gas for verification in the high half and for the call in the low half. -/
  gasLimits : Word
  preVerificationGas : Word
  /-- The priority fee in the high half and the greatest fee in the low half. -/
  gasFees : Word
  paymasterAndData : Bytes
  deriving DecidableEq

namespace UserOperation

def empty : UserOperation where
  sender := .zero
  nonce := .zero
  initCode := []
  callData := []
  gasLimits := .zero
  preVerificationGas := .zero
  gasFees := .zero
  paymasterAndData := []

instance : Inhabited UserOperation := ⟨empty⟩

def defaultEntryPoint : Address := .ofNat 0x4337084d9e255ff0702461cf8895ce9e3b5ff108

def operationType : String :=
  "PackedUserOperation(address sender,uint256 nonce,bytes initCode,bytes callData," ++
  "bytes32 accountGasLimits,uint256 preVerificationGas,bytes32 gasFees,bytes paymasterAndData)"

def domainType : String :=
  "EIP712Domain(string name,string version,uint256 chainId,address verifyingContract)"

def textBytes (text : String) : Bytes := utf8 text.toList

def operationTypeDigest : Digest := Digest.of (textBytes operationType)

def domainTypeDigest : Digest := Digest.of (textBytes domainType)

def domainItems (chainId : UInt64) (entryPoint : Address) : List Item :=
  [.digest domainTypeDigest, .hashed (textBytes "ERC4337"), .hashed (textBytes "1"),
    .uint64 chainId, .address entryPoint]

def domainDigest (chainId : UInt64) (entryPoint : Address) : Digest :=
  Abi.digest (domainItems chainId entryPoint)

def items (op : UserOperation) : List Item :=
  [.digest operationTypeDigest, .address op.sender, .word op.nonce, .hashed op.initCode,
    .hashed op.callData, .word op.gasLimits, .word op.preVerificationGas, .word op.gasFees,
    .hashed op.paymasterAndData]

def structDigest (op : UserOperation) : Digest := Abi.digest op.items

def envelope (op : UserOperation) (entryPoint : Address) (chainId : UInt64) : List Item :=
  [.raw [0x19, 0x01], .digest (domainDigest chainId entryPoint), .digest op.structDigest]

def signingDigest (op : UserOperation) (entryPoint : Address) (chainId : UInt64) : Digest :=
  Abi.digest (op.envelope entryPoint chainId)

def packGasLimits (verification call : UInt128) : Word := Word.ofHalves verification call

def packGasFees (priority greatest : UInt128) : Word := Word.ofHalves priority greatest

end UserOperation

end WalletPolicy
