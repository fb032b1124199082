import NetApiDoc.Workload.Suite
import NetApiDoc.Workload.PathPattern
import NetApiDoc.Text.Binary64
import NetApiDoc.Package.Setup

set_option autoImplicit false

namespace NetApiDoc.Workload

open NetApiDoc.Text NetApiDoc.Package

def repositoryRoot : String := "/repo"

inductive SourceFile
  | known (path : String) (statements : List Nat)
  | outside (path : String)
  deriving DecidableEq, Repr

def SourceFile.path : SourceFile → String
  | .known p _ => p
  | .outside p => p

def setupStatements : List Nat := [6, 8, 11]

def repositoryFiles : List SourceFile :=
  [.outside "_pti_cov_runner.py", .outside "_pti_measure.py", .outside "_pti_repotime.py",
    .outside "_pti_semcheck.py", .outside "microbench.py", .known "setup.py" setupStatements,
    .known "sphinxcontrib/__init__.py" [1],
    .known "sphinxcontrib/dotnetdomain.py" domainStatements]

def defaultOmit : List String :=
  ["*/microbench.py", "*/_pti_*.py", "*/setup.py", "*/conftest.py", "*/test_*.py",
    "*/*_test.py", "*/tests/*", "*/test/*", "*/__tests__/*", "*/__fixtures__/*",
    "*/_version.py"]

structure BenchError where
  place : String
  kind : String
  message : String
  deriving DecidableEq, Repr

def moduleChain (module : String) : List String :=
  let parts := module.splitOn "."
  (List.range parts.length).map fun i => ".".intercalate (parts.take (i + 1))

def importsOf (module : String) : List String :=
  moduleChain module ++ (if module == "microbench" then suiteImports.drop 1 else [])

def importable : List String := ["microbench", "sphinxcontrib", "sphinxcontrib.dotnetdomain"]

def importError (module : String) (missing : List String) : Option BenchError :=
  match (importsOf module).find? missing.contains with
  | some m => some ⟨"<import>", "ModuleNotFoundError", haltedImport m⟩
  | none =>
    if module == "setup" then
      some ⟨"<import>", "SystemExit",
        ((runSetup domainPackage [repositoryRoot, module]).stopped).getD ""⟩
    else if importable.contains module then none
    else some ⟨"<import>", "ModuleNotFoundError", "No module named '" ++ module ++ "'"⟩

def workloadsOf (module : String) : List Bench :=
  if module == "microbench" then catalog else []

def Bench.lateError (w : Bench) (missing : List String) : Option BenchError :=
  (w.lazyImports.find? missing.contains).map fun m =>
    ⟨w.name, "ModuleNotFoundError", haltedImport m⟩

def Bench.linesRun (w : Bench) (missing : List String) : List Nat :=
  let fp := w.footprint w.default.toNat
  if (w.lateError missing).isSome then fp.early else fp.early ++ fp.late

structure FileReport where
  path : String
  statements : List Nat
  missing : List Nat
  deriving DecidableEq, Repr

structure Measurement where
  files : List FileReport
  benches : Nat
  errors : List BenchError
  deriving DecidableEq, Repr

inductive Refusal
  | invalidPattern (text : String)
  | outsideFile (path : String)
  deriving DecidableEq, Repr

def linesRunIn (path : String) (module : String) (domainLines : List Nat) : List Nat :=
  if path == "sphinxcontrib/dotnetdomain.py" then domainLines
  else if path == "setup.py" && module == "setup" then setupStatements
  else []

def measure (module : String) (patterns : List String) (missing : List String) :
    Except Refusal Measurement := do
  let kept ← repositoryFiles.filterM fun f =>
    match leavesOut repositoryRoot patterns (repositoryRoot ++ "/" ++ f.path) with
    | .ok out => pure !out
    | .error text => throw (.invalidPattern text)
  let (workloads, importErrors) := match importError module missing with
    | some e => ([], [e])
    | none => (workloadsOf module, [])
  let domainLines := lineSet (workloads.flatMap (·.linesRun missing))
  let lateErrors := workloads.filterMap (·.lateError missing)
  let files ← kept.mapM fun f => match f with
    | .known path statements =>
      let ran := linesRunIn path module domainLines
      pure ⟨path, statements, statements.filter (!ran.contains ·)⟩
    | .outside path => throw (.outsideFile path)
  return ⟨files, workloads.length, importErrors ++ lateErrors⟩

def FileReport.covered (f : FileReport) : Nat := f.statements.length - f.missing.length

def Measurement.covered (m : Measurement) : Nat := (m.files.map (·.covered)).foldr (· + ·) 0

def Measurement.statementCount (m : Measurement) : Nat :=
  (m.files.map (·.statements.length)).foldr (· + ·) 0

def percentOf (covered total : Nat) : Binary64 :=
  if total = 0 then .ofRatio 100 1 else .ofRatio (100 * covered) total

def Measurement.percent (m : Measurement) : Binary64 := percentOf m.covered m.statementCount

def Measurement.summary (m : Measurement) : String :=
  "coverage: " ++ m.percent.fixed 1 ++ "% (" ++ toString m.covered ++ "/" ++
    toString m.statementCount ++ " stmts, " ++ toString m.benches ++ " benches, " ++
    toString m.errors.length ++ " errors)\n"

end NetApiDoc.Workload
