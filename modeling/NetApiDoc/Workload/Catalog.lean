import NetApiDoc.Workload.Samples
import NetApiDoc.Workload.Routine

set_option autoImplicit false

namespace NetApiDoc.Workload

structure Bench where
  name : String
  parameter : String
  sizes : List Int
  default : Int
  prepare : Size → Except Error (Except Error Datum)
  lazyImports : List String := []
  footprint : Nat → Footprint

def Bench.runs (w : Bench) (params : List (String × Size)) (times : Nat) :
    Except Error (List Datum) := do
  if let some (p, _) := params.find? (·.1 != w.parameter) then
    throw (.unexpectedParameter w.name p)
  let size := (params.lookup w.parameter).getD (.whole w.default)
  let run ← w.prepare size
  (List.replicate times run).mapM id

def signatures : Bench where
  name := "bench_parse_signatures"
  parameter := "n_sigs"
  sizes := [60, 300, 1500]
  default := 300
  prepare size := do
    let n ← size.repeatTo
    return signatureRun n.toNat
  footprint _ := .ofRoutines
    [.readSignature, .newSignature, .showSignature, .fullName, .objectType]

def referenceFootprint (targets : List String) : Footprint :=
  let rendered := targets.zipIdx.filterMap fun (t, i) => if i % 9 == 0 then some t else none
  let withRole := (rendered ++ targets.getLast?.toList).flatMap (renderFieldLines (some "obj"))
  ⟨Routine.splitTarget.body ++ Routine.newRole.body ++ Routine.processLink.body ++ withRole ++
    renderFieldLines none "Plain", []⟩

def references : Bench where
  name := "bench_xref_targets"
  parameter := "n_targets"
  sizes := [60, 300, 1200]
  default := 300
  prepare size := do
    let n ← size.repeatTo
    return referenceRun (cycle referenceSamples n.toNat)
  footprint n := referenceFootprint (cycle referenceSamples n)

def lookups : Bench where
  name := "bench_domain_lookup"
  parameter := "n_objects"
  sizes := [40, 200, 600]
  default := 200
  prepare size := do
    let n ← size.count
    return lookupRun ((List.range n.toNat).map lookupObject)
  footprint _ := .ofRoutines
    [.newDomain, .findObject, .resolveTyped, .resolveAny, .clearDocument, .listObjects]

def namespaceIndex : Bench where
  name := "bench_index_generate"
  parameter := "n_namespaces"
  sizes := [150, 400, 1200]
  default := 400
  prepare size := do
    let n ← size.count
    return indexRun ((List.range n.toNat).map indexNamespace)
  footprint _ := .ofRoutines [.newDomain, .buildIndex]

def descriptions : Bench where
  name := "bench_handle_signature"
  parameter := "n_members"
  sizes := [30, 120, 480]
  default := 120
  prepare size := do
    let n ← size.count
    return descriptionRun n.toNat (max 4 (Int.fdiv n 4)).toNat
  lazyImports := ["sphinx.application"]
  footprint _ :=
    ⟨[Routine.indexText, .enterNesting, .leaveNesting].flatMap Routine.body,
      [Routine.describeSignature, .addTarget, .runNested, .registerExtension].flatMap
        Routine.body⟩

def catalog : List Bench := [signatures, references, lookups, namespaceIndex, descriptions]

def find? (name : String) : Option Bench := catalog.find? (·.name == name)

def runDefaults : Except Error Unit :=
  catalog.forM fun w => do let _ ← w.runs [] 1

structure StandInEnv where
  docname : String := "index"
  warnings : List (String × String × Option Int) := []

def StandInEnv.warn (env : StandInEnv) (doc message : String) (line : Option Int) :
    StandInEnv :=
  { env with warnings := env.warnings ++ [(doc, message, line)] }

def StandInEnv.docPath (doc : String) : String := doc ++ ".rst"

end NetApiDoc.Workload
