import SignedAdmission.Text.Lowercase

/-! Kinds of workloads: the API versions they come in and where they keep their pod spec. -/
namespace SignedAdmission

inductive WorkloadKind where
  | pod
  | deployment
  | replicationController
  | replicaSet
  | daemonSet
  | statefulSet
  | job
  | cronJob
deriving DecidableEq, Repr

namespace WorkloadKind

def all : List WorkloadKind :=
  [pod, deployment, replicationController, replicaSet, daemonSet, statefulSet, job, cronJob]

def text : WorkloadKind → String
  | pod => "Pod"
  | deployment => "Deployment"
  | replicationController => "ReplicationController"
  | replicaSet => "ReplicaSet"
  | daemonSet => "DaemonSet"
  | statefulSet => "StatefulSet"
  | job => "Job"
  | cronJob => "CronJob"

def ofText? (text : String) : Option WorkloadKind :=
  all.find? (·.text == text)

def apiVersions : WorkloadKind → List String
  | pod | replicationController => ["v1"]
  | deployment | replicaSet | daemonSet | statefulSet => ["apps/v1", "apps/v1beta1", "apps/v1beta2"]
  | job => ["batch/v1"]
  | cronJob => ["batch/v1", "batch/v1beta1", "batch/v2alpha1"]

def supports (kind : WorkloadKind) (apiVersion : String) : Bool :=
  kind.apiVersions.contains apiVersion

/-- The name of the kind's resources in request paths. -/
def plural (kind : WorkloadKind) : String :=
  String.ofList (Text.lowercase kind.text.toList) ++ "s"

/-- The way from a workload's spec to its pod spec. -/
def podSpecPath : WorkloadKind → List String
  | pod => []
  | cronJob => ["jobTemplate", "spec", "template", "spec"]
  | _ => ["template", "spec"]

end WorkloadKind

/-- The lists of a pod spec that hold containers. -/
inductive ContainerGroup where
  | containers
  | initContainers
  | ephemeralContainers
deriving DecidableEq, Repr

namespace ContainerGroup

def all : List ContainerGroup := [containers, initContainers, ephemeralContainers]

def text : ContainerGroup → String
  | containers => "containers"
  | initContainers => "initContainers"
  | ephemeralContainers => "ephemeralContainers"

end ContainerGroup

end SignedAdmission
