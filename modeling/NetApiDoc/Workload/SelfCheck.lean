import NetApiDoc.Workload.Coverage
import NetApiDoc.Workload.Fingerprint

set_option autoImplicit false

namespace NetApiDoc.Workload

inductive Outcome
  | answered (value : Datum)
  | raised (errorClass : String)
  deriving Repr

def Bench.outcome (w : Bench) (missing : List String) : Outcome :=
  match w.lateError missing with
  | some e => .raised e.kind
  | none =>
    match w.prepare (.whole w.default) with
    | .ok (.ok d) => .answered d
    | .ok (.error e) | .error e => .raised e.className

def Outcome.typeText : Outcome → String
  | .answered d => d.typeName
  | .raised c => "<" ++ c ++ ">"

def Outcome.fingerprints : Outcome → List String
  | .answered d => [d.fingerprint]
  | .raised _ => []

def Outcome.failed : Outcome → Bool
  | .answered _ => false
  | .raised _ => true

def selfCheckOutcomes (missing : List String) : Option (List (String × Outcome)) :=
  match importFailure missing with
  | some _ => none
  | none => some ((catalog.map fun w => (w.name, w.outcome missing)).mergeSort
      fun a b => Domain.textLe a.1 b.1)

end NetApiDoc.Workload
