import NetApiDoc.Workload.Catalog

set_option autoImplicit false

namespace NetApiDoc.Workload

def suiteImports : List String := ["microbench", "sphinxcontrib", "sphinxcontrib.dotnetdomain"]

def haltedImport (name : String) : String := "import of " ++ name ++ " halted; None in sys.modules"

def missingModule (name : String) : String := "ModuleNotFoundError: " ++ haltedImport name

def firstMissing (missing : List String) : Option String := suiteImports.find? missing.contains

def importFailure (missing : List String) : Option String := (firstMissing missing).map missingModule

def workloadNames : List String :=
  (catalog.map (·.name)).mergeSort Domain.textLe

def failingWorkloads (missing : List String) : List String :=
  ((catalog.filter fun w => w.lazyImports.any missing.contains).map (·.name)).mergeSort
    Domain.textLe

structure TimingReport where
  workloads : List String
  failed : List String
  outside : List String
  deriving DecidableEq, Repr

def timingReport (missing : List String) : Except String TimingReport :=
  match importFailure missing with
  | some failure => .error failure
  | none => .ok ⟨workloadNames, failingWorkloads missing, workloadNames⟩

def selfCheckRuns (control : Bool) (missing : List String) : Bool :=
  control || (importFailure missing).isSome

end NetApiDoc.Workload
