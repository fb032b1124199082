import NetApiDoc.Markup.Block
import NetApiDoc.Domain.Tables

set_option autoImplicit false

namespace NetApiDoc.Build

open NetApiDoc.Markup NetApiDoc.Text

inductive DirectiveUse
  | object (k : Kind) (objtype : String)
  | toctree
  deriving DecidableEq, Repr

def splitAtColon (s : String) : Option (String × String) :=
  match s.toList.span (· != ':') with
  | (before, _ :: after) => some (String.ofList before, String.ofList after)
  | (_, []) => none

def directiveUse (name : String) : Option DirectiveUse :=
  match splitAtColon name with
  | some ("dn", rest) => (Kind.ofName? rest).map fun k => .object k rest
  | some _ => none
  | none => if name == "toctree" then some .toctree else none

def objectFlags (k : Kind) : List String :=
  ["noindex", "public", "protected", "static"] ++
    (if k.isContainer then ["hidden"] else []) ++
    (match k with
      | .prop => ["getter", "setter"]
      | .field => ["adder", "remover"]
      | _ => [])

def objectSpec (k : Kind) : DirectiveSpec :=
  ⟨1, 0, true, (objectFlags k).map fun o => (o, .flag), true, true⟩

def toctreeSpec : DirectiveSpec :=
  ⟨0, 0, false,
    [("maxdepth", .number), ("name", .text), ("caption", .requiredText), ("glob", .flag),
      ("hidden", .flag), ("includehidden", .flag), ("numbered", .numberOrNothing),
      ("titlesonly", .flag), ("reversed", .flag)], true, false⟩

def buildSpecs : Specs := fun name =>
  match directiveUse name with
  | some (.object k _) => some (objectSpec k)
  | some .toctree => some toctreeSpec
  | none => none

inductive RoleUse
  | domain (role : String)
  | any
  | unknown
  deriving DecidableEq, Repr

def roleUse (name : String) : RoleUse :=
  let lower := lowerText name
  match splitAtColon lower with
  | some ("dn", rest) => if Domain.roleNames.contains rest then .domain rest else .unknown
  | some _ => .unknown
  | none => if lower == "any" then .any else .unknown

def RoleUse.classes : RoleUse → List String
  | .domain r => ["xref", "dn", "dn-" ++ r]
  | .any => ["xref", "any"]
  | .unknown => []

end NetApiDoc.Build
