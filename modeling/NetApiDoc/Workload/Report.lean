import NetApiDoc.Workload.SelfCheck

set_option autoImplicit false

namespace NetApiDoc.Workload

open NetApiDoc.Text

def recordedRounds : Nat := 8

structure Verdict where
  name : String
  verdict : String
  returned : String
  deriving DecidableEq, Repr

def Verdict.needsFix (v : Verdict) : Bool := v.verdict == "error"

def selfCheck (missing : List String) : Option (List Verdict) :=
  (selfCheckOutcomes missing).map (·.map fun (name, o) =>
    ⟨name, if o.failed then "error" else "ok-unparam", o.typeText⟩)

def padEnd (width : Nat) (s : String) : String :=
  s ++ String.ofList (List.replicate (width - s.length) ' ')

def padStart (width : Nat) (s : String) : String :=
  String.ofList (List.replicate (width - s.length) ' ') ++ s

def coverText (share : Binary64) : String :=
  if share.between 0 1 then "1" else if share.between 99 100 then "99" else share.fixed 0

def FileReport.share (f : FileReport) : Binary64 := percentOf f.covered f.statements.length

def FileReport.worseOrEqual (a b : FileReport) : Bool :=
  let (an, ad) := a.share.ratio
  let (bn, bd) := b.share.ratio
  an * bd < bn * ad || (an * bd == bn * ad && b.missing.length ≤ a.missing.length)

def missingText (missing : List Nat) : String :=
  ",".intercalate ((missing.take 12).map toString) ++ (if 12 < missing.length then "…" else "")

def tableRow (name : String) (statements missing : Nat) (share : Binary64) : String :=
  padEnd 30 name ++ " " ++ padStart 5 (toString statements) ++ " " ++
    padStart 5 (toString missing) ++ " " ++ padStart 6 (coverText share ++ "%")

def tableRule : String := String.ofList (List.replicate 71 '-')

def coverageTable (m : Measurement) : List String :=
  let files := m.files.mergeSort FileReport.worseOrEqual
  [padEnd 30 "Name" ++ " " ++ padStart 5 "Stmts" ++ " " ++ padStart 5 "Miss" ++ " " ++
      padStart 6 "Cover" ++ "  Missing", tableRule] ++
    files.map (fun f => tableRow f.path f.statements.length f.missing.length f.share ++ "  " ++
      missingText f.missing) ++
    [tableRule, tableRow "TOTAL" m.statementCount (m.statementCount - m.covered) m.percent]

def errorLines (errors : List BenchError) : List String :=
  if errors.isEmpty then []
  else (toString errors.length ++ " bench error(s):") ::
    errors.map (fun e => "  " ++ e.place ++ ": " ++ e.kind ++ ": " ++ e.message) ++ [""]

def verdictLegend : List String :=
  ["  returns-none: run() has no return — collect and return the call results",
    "  unstable: seed RNG in setup; avoid time/uuid/id in the return",
    "  returns-input: return repo output, not the parameter value",
    "  low-repo-time: <50% of run() time is in repo code — move glue to setup",
    "  param-invariant: return something derived from run()'s work, not setup",
    "  repo-modified: revert edits to repo files (git checkout -- <path>)"]

def verdictRow (v : Verdict) : String :=
  "  " ++ (if v.needsFix then "* " else "  ") ++ padEnd 32 v.name ++ " " ++ padEnd 16 v.verdict ++
    " (" ++ v.returned ++ ", repo 0%) 0.0ms"

def Verdict.before (a b : Verdict) : Bool :=
  (a.needsFix && !b.needsFix) || (a.needsFix == b.needsFix && Domain.textLe a.name b.name)

def verdictLines (verdicts : List Verdict) : List String :=
  ["", "self-check (* = fix needed):"] ++ verdictLegend ++
    (verdicts.mergeSort Verdict.before).map verdictRow ++ [""]

structure Checkpoint where
  round : Nat
  percent : Binary64
  covered : Nat
  statements : Nat
  benchFunctions : Nat
  benchErrors : Nat
  verdicts : List (String × String)
  notSelfChecking : Nat
  deriving DecidableEq, Repr

structure RoundReport where
  lines : List String
  checkpoint : Option Checkpoint
  exitCode : Option Nat
  deriving DecidableEq, Repr

def measureRound (missing : List String) : Except Refusal RoundReport := do
  if missing.contains "coverage" then
    return ⟨["coverage measurement failed (exit 1)"], none, some 1⟩
  let m ← measure "microbench" defaultOmit missing
  let verdicts := (selfCheck missing).getD []
  let flagged := (verdicts.filter (·.needsFix)).length
  let benches := catalog.length
  let round := recordedRounds + 1
  let summary := "[round " ++ toString round ++ ": " ++ toString benches ++ " benches, " ++
    m.percent.fixed 1 ++ "% covered" ++
    (if flagged = 0 then "" else ", " ++ toString flagged ++ "/" ++ toString benches ++
      " not self-checking") ++ "]"
  let lines := coverageTable m ++ [""] ++ errorLines m.errors ++
    (if verdicts.isEmpty then [] else verdictLines verdicts) ++ [summary]
  return ⟨lines, some ⟨round, m.percent, m.covered, m.statementCount, benches,
    m.errors.length, verdicts.map (fun v => (v.name, v.verdict)), flagged⟩, none⟩

end NetApiDoc.Workload
