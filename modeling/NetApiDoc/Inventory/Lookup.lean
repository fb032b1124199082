import NetApiDoc.Inventory.Basic
import NetApiDoc.Domain.Tables

set_option autoImplicit false

namespace NetApiDoc

inductive SearchMode
  | exact
  | specific
  deriving DecidableEq, Repr

inductive Lookup
  | emptyName
  | notFound
  | found (name : String) (entry : Entry)
  deriving DecidableEq, Repr

namespace Inventory

def kindFilter : Option String → Option (List String)
  | none => some (Kind.all.map Kind.longName)
  | some role => Domain.kindNamesForRole role

def passes (filter : Option (List String)) (e : Entry) : Except Error Bool :=
  match filter with
  | none => .error .unknownRole
  | some names =>
    match e.kind with
    | some k => .ok (names.contains k)
    | none => .ok false

def holdsPassing (inv : Inventory) (filter : Option (List String)) (name : String) :
    Except Error Bool :=
  match inv.get? name with
  | some e => passes filter e
  | none => .ok false

/-- The name sought, with one trailing `()` dropped. -/
def soughtName (name : String) : String :=
  if name.endsWith "()" then String.ofList (name.toList.dropLast.dropLast) else name

def qualified (qualifier : Option String) (name : String) : String :=
  match qualifier with
  | some q => q ++ "." ++ name
  | none => name

def isQualifying : Option String → Bool
  | some q => !q.isEmpty
  | none => false

/-- The name a lookup settles on, if any. -/
def settle (inv : Inventory) (qualifier : Option String) (name : String)
    (role : Option String) : SearchMode → Except Error (Option String)
  | .exact =>
    if inv.contains name then .ok (some name)
    else if isQualifying qualifier && inv.contains (qualified qualifier name) then
      .ok (some (qualified qualifier name))
    else .ok none
  | .specific => do
    let filter := kindFilter role
    let full := qualified qualifier name
    let underQualifier ←
      if isQualifying qualifier then inv.holdsPassing filter full else pure false
    if underQualifier then return some full
    let itself ← inv.holdsPassing filter name
    if itself then return some name
    return (inv.endingIn name).getLast?

def find (inv : Inventory) (qualifier : Option String) (name : String) (role : Option String)
    (mode : SearchMode) : Except Error Lookup := do
  let name := soughtName name
  if name.isEmpty then return .emptyName
  match ← inv.settle qualifier name role mode with
  | some n =>
    match inv.get? n with
    | some e => return .found n e
    | none => return .found n ⟨none, none⟩
  | none => return .notFound

end Inventory

end NetApiDoc
