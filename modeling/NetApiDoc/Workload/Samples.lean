import NetApiDoc.Workload.Datum
import NetApiDoc.Kind
import NetApiDoc.Text.Dotted
import NetApiDoc.Reference.Field
import NetApiDoc.Reference.Link
import NetApiDoc.Inventory.Session
import NetApiDoc.Describe.Signature

set_option autoImplicit false

namespace NetApiDoc.Workload

open NetApiDoc.Text NetApiDoc.Reference

def containerSamples : List String :=
  ["Foo", "Foo.Bar", "System.Collections.Generic.List", "Name.Space.Type<T>",
    "Name.Space.Type<T, U>", "Name.Space.Type{TKey, TValue}", "Outer.Inner`1",
    "Outer.Inner`1``2", "Pkg.Indexer[System.Int32]"]

def callableSamples : List String :=
  ["Foo.Bar()", "Foo.Bar.Baz(a, b)", "Solo(x)", "Ns.Cls.Method<T>(T value)",
    "Ns.Cls.op_Addition(Ns.Cls a, Ns.Cls b)", "Ns.Cls.Thing`1()"]

def constructorSamples : List String := ["Ns.Cls.#ctor(int a)", "Ns.Cls.#ctor()", "#ctor()"]

def unreadableSample : String := "###never&&&parses***"

def readDisplay (d : Directive) (text : String) : Except Error Datum :=
  (fun sig => Datum.text sig.display) <$> d.readSignature text

def signatureRun (n : Nat) : Except Error Datum := do
  let containers ← (cycle containerSamples n).mapM (readDisplay .container)
  let callables ← (cycle callableSamples n).mapM (readDisplay .callable)
  let constructors ← (cycle constructorSamples n).mapM (readDisplay (.ofKind .ctor))
  let failure := match Directive.container.readSignature unreadableSample with
    | .ok sig => sig.display
    | .error e => e.message
  return .list (containers ++ callables ++ constructors ++ [.text failure] ++
    Kind.all.map fun k => .text k.longName)

def referenceSamples : List String :=
  ["System.String", "~System.Collections.Generic.List", ".Relative.Name", "Outer{Inner}",
    "Outer{Middle{Inner}}", "A{B{C{D{E{F{G}}}}}}",
    "System.Collections.Generic.Dictionary{System.String<str>}", "Wrapper{~Name.Space.Thing}",
    "Aliased<short>"]

def Datum.ofParts (parts : List RefPart) : Datum :=
  .list (parts.map fun p => .list [.text p.name, .ofOption p.target])

def fieldTree (target : String) : Datum :=
  .node (fieldReference (some "obj") "dn" target "emphasis" none)

def referenceRun (targets : List String) : Except Error Datum := do
  let each := targets.zipIdx.flatMap fun (t, i) =>
    Datum.ofParts (split t) :: (if i % 9 == 0 then [fieldTree t] else [])
  let last ← match targets.getLast? with
    | some t => pure t
    | none => throw .noItems
  let link := Link.ofRole false "~Name.Space.Deep.Type" "~Name.Space.Deep.Type"
  return .list (each ++ [fieldTree last,
    .node (fieldReference none "dn" "Plain" "emphasis" (some "fallback")),
    .node (fieldReference none "dn" "Plain" "emphasis" none),
    .list [.text link.title, .text link.target]])

def lookupKinds : List Kind :=
  [.cls, .ns, .meth, .struct, .iface, .del, .enum, .prop, .field, .event, .op, .ctor]

def lookupObject (i : Nat) : String × Entry :=
  let k := lookupKinds.getD (i % 12) .cls
  let base := s!"Ns{i % 7}.Type{i % 11}"
  let name := if k == .ns then base else base ++ s!".Member{i}"
  (name, ⟨some s!"page{i % 5}", some k.longName⟩)

def qualifierAndMember (name : String) : Option String × String :=
  match splitAtLast '.' name.toList with
  | some (q, m) => (some (String.ofList q), String.ofList m)
  | none => (none, name)

def missingName : String := "Nowhere.Missing"

def Datum.ofNode? : Option Node → Datum
  | some n => .node n
  | Option.none => .none

def Datum.ofReferences (found : List (String × Node)) : Datum :=
  .list (found.map fun (r, n) => .list [.text r, .node n])

def lookupRun (objects : List (String × Entry)) : Except Error Datum := do
  let inv := Inventory.ofList objects
  let names := objects.map (·.1)
  let look (q : Option String) (n : String) (role : Option String) (mode : SearchMode) :
      Except Error Datum :=
    Datum.ofLookup <$> inv.find q n role mode
  let exact ← names.mapM fun n => look none n none .exact
  let byRole ← names.mapM fun n => look none n (some "obj") .specific
  let threefold ← names.flatMapM fun n => do
    let (q, m) := qualifierAndMember n
    return [← look none n none .specific, ← look q m none .specific,
      ← look none m none .specific]
  let missing ← look none missingName none .exact
  let empty ← look none "()" none .exact
  let bySuffix ← look none "Member0" none .specific
  let first ← match names.head? with
    | some n => pure n
    | none => throw .noItems
  let content := Node.text "x"
  let resolved ← inv.resolve .pages (some "index") "cls" first none false content
  let unresolved ← inv.resolve .pages (some "index") "cls" missingName none false content
  let wrongKind ← inv.resolve .pages (some "index") "meth" first none true content
  let anyFound ← inv.resolveAny .pages (some "index") first none content
  let anyMissing ← inv.resolveAny .pages (some "index") missingName none content
  let grown := inv.insert "Extra.Added.Object" ⟨some "extra", some "class"⟩
  let cleared := grown.clearDoc (some "page0")
  return .list (exact ++ byRole ++ threefold ++ [missing, empty, bySuffix,
    .ofNode? resolved, .ofNode? unresolved, .ofNode? wrongKind, .ofReferences anyFound,
    .ofReferences anyMissing, .count grown.entries.length, .count cleared.entries.length])

def indexNamespace (i : Nat) : String × Entry :=
  (s!"Bench.Area{i}." ++ String.singleton (Char.ofNat (65 + i % 26)) ++ "Space",
    ⟨some s!"doc{i % 4}", some "namespace"⟩)

def lineCount (groups : List (String × List IndexLine)) : Nat :=
  (groups.map fun g => g.2.length).foldr (· + ·) 0

def indexRun (objects : List (String × Entry)) : Except Error Datum := do
  let inv := Inventory.ofList objects
  let whole ← inv.moduleIndex []
  let chosen ← inv.moduleIndex ["doc0", "doc1"]
  return .list [.count whole.length, .count (lineCount whole), .count chosen.length,
    .count (lineCount chosen)]

def descriptionMark : Nat := 2

def widgetPrefix : String := "Bench.Namespace.Widget"

def Datum.ofName (name : String × Option String) : Datum :=
  .list [.text name.1, .ofOption name.2]

def descriptionRun (members containers : Nat) : Except Error Datum := do
  let names ← (List.range containers).mapM fun i =>
    (fun (d : Describe.Described) => Datum.ofName d.name) <$>
      Describe.describe .cls [] none s!"Bench.Ns{i}.Type{i}"
  let bad := match Describe.describe .cls [] none "not a signature!" with
    | .ok d => Datum.ofName d.name
    | .error _ => .text "bad"
  let texts := (List.range members).map fun i =>
    Datum.text (Domain.indexText (some Kind.meth.longName) (widgetPrefix ++ s!".Do{i}"))
  let method ← Describe.describe .meth [] (some widgetPrefix) "DoArgs(int a, string b)"
  let property ← Describe.describe .prop [] (some widgetPrefix) "Value"
  return .list ([.count descriptionMark] ++ names ++ [bad] ++ texts ++
    [.ofName method.name, .ofName property.name,
      .text (Domain.indexText (some Kind.prop.longName) "Plain")])

end NetApiDoc.Workload
