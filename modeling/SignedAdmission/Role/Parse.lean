import SignedAdmission.Error
import SignedAdmission.Text.Space
import SignedAdmission.Text.Split

/-! Reading role names. A delegation's name is free text without slashes and white space. -/
namespace SignedAdmission.Role

def isDelegationName (name : List Char) : Bool :=
  !name.isEmpty && name.all fun c => c != '/' && !Text.isSpace c

def ofText? (text : String) : Option Role :=
  if text = "root" then some root
  else if text = "snapshot" then some snapshot
  else if text = "timestamp" then some timestamp
  else if text = "targets" then some targets
  else
    match Text.dropStart? delegationStart.toList text.toList with
    | some name => if isDelegationName name then some (delegation (String.ofList name)) else none
    | none => none

def parse (text : String) : Except TrustError Role :=
  match ofText? text with
  | some role => .ok role
  | none => .error (.format (.role text))

/-- The delegation of a name that is given with or without `targets/` in front. -/
def parseDelegation (name : String) : Except TrustError Role :=
  if delegationStart.toList.isPrefixOf name.toList then parse name
  else parse (delegationStart ++ name)

end SignedAdmission.Role
