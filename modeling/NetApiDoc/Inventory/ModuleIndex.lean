import NetApiDoc.Inventory.Basic
import NetApiDoc.Text.Lower
import NetApiDoc.Domain.Tables

set_option autoImplicit false

namespace NetApiDoc

open NetApiDoc.Text

structure IndexLine where
  name : String
  subtype : Nat
  page : String
  anchor : String
  extra : String
  qualifier : String
  description : String
  deriving DecidableEq, Repr

def namespacePage (name : String) : String :=
  "autoapi/" ++ String.intercalate "/" (name.splitOn ".") ++ "/index"

def namespaceLine (name : String) : IndexLine :=
  ⟨name, 0, namespacePage name, name, "", "", ""⟩

def indexLetter (name : String) : Except Error String :=
  match lastPart name.toList with
  | c :: _ => .ok (lowerText (String.singleton c))
  | [] => .error .emptyLastPart

def fileUnder (groups : List (String × List IndexLine)) (letter : String) (line : IndexLine) :
    List (String × List IndexLine) :=
  if groups.any (·.1 == letter) then
    groups.map fun g => if g.1 == letter then (g.1, g.2 ++ [line]) else g
  else groups ++ [(letter, [line])]

namespace Inventory

def docKey (e : Entry) : Except Error String :=
  match e.doc with
  | some d => .ok (lowerText d)
  | none => .error .missingDocumentName

def moduleIndex (inv : Inventory) (docs : List String) :
    Except Error (List (String × List IndexLine)) := do
  let keyed ← inv.entries.mapM fun p => do return (← docKey p.2, p)
  let sorted := keyed.mergeSort fun a b => Domain.textLe a.1 b.1
  let chosen := sorted.filter fun (_, _, e) =>
    (docs.isEmpty || docs.any (some · == e.doc)) && e.kind == some "namespace"
  let groups ← chosen.foldlM (fun groups (_, name, _) => do
    return fileUnder groups (← indexLetter name) (namespaceLine name)) []
  return groups.mergeSort fun a b => Domain.textLe a.1 b.1

end Inventory

end NetApiDoc
