import NetApiDoc.Build.Resolve

set_option autoImplicit false

namespace NetApiDoc.Build

structure Built where
  docs : List (String × List Node)
  inventory : Inventory
  warnings : List Warning

def masterDoc (names : List String) : String :=
  if names.contains "index" then "index" else names.headD "index"

def unlistedWarnings (names : List String) (included : List String)
    (metadata : List (String × List String)) : List Warning :=
  (names.filter fun d => d != masterDoc names && !included.contains d &&
    !((metadata.lookup d).getD []).contains "orphan").map fun d =>
      ⟨d, none, ["document isn't included in any toctree"]⟩

def build (sources : List (String × String)) : Except Error Built := do
  let sorted := sources.mergeSort fun a b => Domain.textLe a.1 b.1
  let names := sorted.map (·.1)
  let start : Reading := ⟨names, "", Inventory.empty, .top, [], 0, [], []⟩
  let (read, reading) ← (sorted.mapM fun (doc, text) => do
    let (drafts, metadata) ← readDoc doc text
    return (doc, drafts, metadata)).run start
  let project : Project := ⟨names, reading.inventory, fun d =>
    Draft.tablesAll ((read.find? (·.1 == d)).map (·.2.1) |>.getD [])⟩
  let resolved ← read.mapM fun (doc, drafts, _) => do
    let (nodes, warnings) ← resolveDocument project doc drafts
    return ((doc, nodes), warnings)
  let passWarnings := resolved.flatMap (·.2)
  let unlisted := unlistedWarnings names reading.included (read.map fun (d, _, m) => (d, m))
  return ⟨resolved.map (·.1), reading.inventory,
    reading.warnings ++ unlisted ++ passWarnings ++ passWarnings⟩

def Built.warningLines (b : Built) : List String := b.warnings.flatMap Warning.lines

end NetApiDoc.Build
