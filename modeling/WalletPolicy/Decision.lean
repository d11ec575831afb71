namespace WalletPolicy

inductive Decision where
  | allow
  | requireApproval (reason : String)
  | deny (reason : String)
  deriving DecidableEq

namespace Decision

def isAllowed : Decision → Bool
  | .allow => true
  | _ => false

def requiresApproval : Decision → Bool
  | .requireApproval _ => true
  | _ => false

def isDenied : Decision → Bool
  | .deny _ => true
  | _ => false

def reason? : Decision → Option String
  | .allow => none
  | .requireApproval reason => some reason
  | .deny reason => some reason

def message : Decision → String
  | .allow => "allow"
  | .requireApproval reason => s!"requires approval: {reason}"
  | .deny reason => s!"denied: {reason}"

end Decision

end WalletPolicy
