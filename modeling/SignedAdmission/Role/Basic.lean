/-! The roles that sign trust data: four base roles, and delegations below `targets`. -/
namespace SignedAdmission

inductive Role where
  | root
  | snapshot
  | timestamp
  | targets
  /-- The role `targets/name`. -/
  | delegation (name : String)
deriving DecidableEq, Repr

namespace Role

def delegationStart : String := "targets/"

/-- The name of a role in documents, addresses and messages. -/
def text : Role → String
  | root => "root"
  | snapshot => "snapshot"
  | timestamp => "timestamp"
  | targets => "targets"
  | delegation name => delegationStart ++ name

/-- The delegation that a repository signs its releases with. -/
def releases : Role := delegation "releases"

end Role

end SignedAdmission
