import NetApiDoc.Build.Nesting
import NetApiDoc.Build.Registry
import NetApiDoc.Build.Draft
import NetApiDoc.Build.Fields
import NetApiDoc.Build.DocName
import NetApiDoc.Describe.Signature
import NetApiDoc.Inventory.Basic
import NetApiDoc.Reference.Link

set_option autoImplicit false

namespace NetApiDoc.Build

open NetApiDoc.Markup NetApiDoc.Text NetApiDoc.Reference

structure Warning where
  doc : String
  line : Option Nat
  message : List String
  deriving DecidableEq, Repr

def Warning.lines (w : Warning) : List String :=
  let place := w.doc ++ ".rst" ++ (match w.line with
    | some l => ":" ++ toString l
    | none => "")
  let shown := match w.message with
    | [] => [place ++ ": WARNING: "]
    | m :: ms => (place ++ ": WARNING: " ++ m) :: ms
  (shown.flatMap (·.splitOn "\n")).filter fun l => !l.toList.all isBlank

structure Reading where
  docs : List String
  doc : String
  inventory : Inventory
  nesting : Nesting
  anchors : List String
  serial : Nat
  warnings : List Warning
  included : List String

abbrev Reader := StateT Reading (Except Error)

def warn (line : Option Nat) (message : List String) : Reader Unit :=
  modify fun r => { r with warnings := r.warnings ++ [⟨r.doc, line, message⟩] }

def nextId : Reader String := do
  let r ← get
  set { r with serial := r.serial + 1 }
  return "id" ++ toString (r.serial + 1)

def shownLiteral (use : RoleUse) (title : String) : Node :=
  Node.withText "literal" [("classes", .list (use.classes.map Value.str))] title

def roleDraft (use : RoleUse) (wanted : Wanted) (context : Option String) (line : Nat)
    (text : List Char) : Draft :=
  match text with
  | '!' :: _ => .done (shownLiteral use (String.ofList ((unescape text).drop 1)))
  | _ =>
    let (explicit, title, target) := match explicitTitle text with
      | some (t, x) => (true, String.ofList (unescape t), String.ofList (unescape x))
      | none => (false, String.ofList (unescape text), String.ofList (unescape text))
    let link := match wanted with
      | .domain _ => Link.ofRole explicit title target
      | .any => ⟨title, String.ofList (collapseBlanks target.toList)⟩
    .reference ⟨wanted, link.target, context, explicit, line, shownLiteral use link.title⟩

def inlineDrafts (line : Nat) : Inline → Reader (List Draft)
  | .text s => pure [Draft.ofText s]
  | .styled tag s => pure [.done (Node.withText tag [] s)]
  | .interpreted none t =>
    pure [.done (Node.withText "title_reference" [] (String.ofList (unescape t)))]
  | .interpreted (some role) t => do
    let context := (← get).nesting.current
    match roleUse role with
    | .domain r => pure [roleDraft (.domain r) (.domain r) context line t]
    | .any => pure [roleDraft .any .any context line t]
    | .unknown =>
      warn (some line) ["Unknown interpreted text role \"" ++ role ++ "\"."]
      let messageId ← nextId
      let ownId ← nextId
      let quote := String.singleton backquote
      let raw := ":" ++ role ++ ":" ++ quote ++ String.ofList (restoreBackslashes t) ++ quote
      pure [.done (Node.withText "problematic"
        [("ids", .list [.str ownId]), ("refid", .str messageId)] raw)]

def inlinesDrafts (line : Nat) (content : List Inline) : Reader (List Draft) := do
  let parts ← content.mapM (inlineDrafts line)
  return parts.flatten

def dropEscapedBreaks : List Char → List Char
  | '\\' :: '\n' :: rest => dropEscapedBreaks rest
  | c :: rest => c :: dropEscapedBreaks rest
  | [] => []

def resolveBackslashes : List Char → List Char
  | '\\' :: c :: rest => c :: resolveBackslashes rest
  | c :: rest => c :: resolveBackslashes rest
  | [] => []

def signatureLines (argument : String) : List String :=
  ((dropEscapedBreaks argument.toList).splitOn '\n').map fun l =>
    String.ofList (resolveBackslashes (stripBlanks l))

structure Signatures where
  nodes : List Node
  names : List (String × Option String)
  entries : List Value

def indexEntry (k : Kind) (full : String) : Value :=
  .list [.str "single", .str (Domain.indexText (some k.longName) full), .str full, .str "", .null]

/-- Gives an object its anchor, unless the document has it, and records the object: the
anchor attributes of its signature node. -/
def addTarget (k : Kind) (objtype : String) (line : Nat) (full : String) :
    Reader (List (String × Value)) := do
  let target := k.shortName ++ "-" ++ full
  let r ← get
  if r.anchors.contains target then return []
  set { r with anchors := r.anchors ++ [target] }
  match r.inventory.get? full with
  | some e =>
    warn (some line) ["duplicate object definition of " ++ e.kind.getD "None" ++ " " ++ full ++
      "other instance in " ++ e.doc.getD "None" ++ ".rst"]
  | none => pure ()
  modify fun r => { r with inventory := r.inventory.insert full ⟨some r.doc, some objtype⟩ }
  return [("ids", .list [.str target]), ("names", .list [.str target])]

def describeSignature (k : Kind) (objtype : String) (line : Nat) (flags : List String)
    (noindex : Bool) (acc : Signatures) (sig : String) : Reader Signatures := do
  match Describe.describe k flags (← get).nesting.current sig with
  | .error _ =>
    warn (some line) ["Parsing signature failed: \"" ++ sig ++ "\""]
    let node := Node.element "desc_signature" [("first", .bool false)]
      [Node.withText "desc_name" [] sig]
    return { acc with nodes := acc.nodes ++ [node] }
  | .ok d =>
    let attrs := [("first", Value.bool false)] ++ d.attrs
    if acc.names.contains d.name || noindex then
      let names := if acc.names.contains d.name then acc.names else acc.names ++ [d.name]
      return { acc with nodes := acc.nodes ++ [.element "desc_signature" attrs d.nodes], names := names }
    let anchors ← addTarget k objtype line d.name.1
    return ⟨acc.nodes ++ [.element "desc_signature" (attrs ++ anchors) d.nodes],
      acc.names ++ [d.name], acc.entries ++ [indexEntry k d.name.1]⟩

/-- Every other item, starting by dropping the first. -/
def dropAlternate {α : Type} : List α → List α
  | _ :: b :: rest => b :: dropAlternate rest
  | _ => []

def describeObject (k : Kind) (objtype : String) (line : Nat) (arguments : List String)
    (options : List (String × Option String)) (content : Reader (List Draft)) :
    Reader (List Draft) := do
  let flags := options.map (·.1)
  let noindex := flags.contains "noindex"
  let sigs ← (signatureLines (arguments.headD "")).foldlM
    (describeSignature k objtype line flags noindex) ⟨[], [], []⟩
  if k.isContainer then
    match sigs.names.getLast? with
    | some (_, some p) => modify fun r => { r with nesting := r.nesting.enter p }
    | _ => pure ()
  let body ← content
  let body ← StateT.lift (transformFields (!k.isContainer) body)
  if k.isContainer then modify fun r => { r with nesting := r.nesting.leave }
  let shown := if k.isContainer && flags.contains "hidden" then dropAlternate sigs.nodes
    else sigs.nodes
  return [.done (.element "index" [("entries", .list sigs.entries)] []),
    .element "desc" [("domain", .str "dn"), ("objtype", .str objtype),
      ("desctype", .str objtype), ("noindex", .bool noindex)]
      (shown.map Draft.done ++ [.element "desc_content" [] body])]

def tableEntry (line : Nat) (flags : List String) (acc : List String × List String)
    (entry : String) : Reader (List String × List String) := do
  let (entries, candidates) := acc
  if entry.isEmpty then return acc
  let r ← get
  let explicit := explicitTitle entry.toList
  if flags.contains "glob" && isGlob entry && explicit.isNone && !isAddress entry then
    let pattern := joinDocName r.doc entry
    let matched := (candidates.filter (globMatches pattern)).mergeSort Domain.textLe
    if matched.isEmpty then
      warn (some line) ["toctree glob pattern " ++ quoteValue entry ++ " didn't match any documents"]
    return (entries ++ matched, candidates.filter fun d => !matched.contains d)
  let ref := match explicit with
    | some (_, target) => String.ofList target
    | none => entry
  let docname := joinDocName r.doc (dropSourceSuffix ref)
  if isAddress ref || ref == "self" then return acc
  if !r.docs.contains docname then
    warn (some line) ["toctree contains reference to nonexisting document " ++ quoteValue docname]
    return acc
  return (entries ++ [docname], candidates.filter (· != docname))

def tableDrafts (line : Nat) (options : List (String × Option String)) (lines : List String) :
    Reader (List Draft) := do
  let flags := options.map (·.1)
  let r ← get
  let (entries, _) ← lines.foldlM (tableEntry line flags) ([], r.docs.filter (· != r.doc))
  modify fun r => { r with included := r.included ++ entries }
  let entries := if flags.contains "reversed" then entries.reverse else entries
  return [.element "compound" [("classes", .list [.str "toctree-wrapper"])]
    [.contents ⟨line, entries, flags.contains "hidden"⟩]]

def directiveDrafts (line : Nat) (name : String) (arguments : List String)
    (options : List (String × Option String)) (content : Reader (List Draft))
    (lines : List String) : Reader (List Draft) :=
  match directiveUse (lowerText name) with
  | some (.object k objtype) => describeObject k objtype line arguments options content
  | some .toctree => tableDrafts line options lines
  | none => pure []

mutual
def blockDrafts : Block → Reader (List Draft)
  | .paragraph line content => do
    return [.element "paragraph" [] (← inlinesDrafts line content)]
  | .bulletList bullet items => do
    let bodies ← itemsDrafts items
    return [.element "bullet_list" [("bullet", .str (String.singleton bullet))]
      (bodies.map (.element "list_item" []))]
  | .fieldList fields => do return [.element "field_list" [] (← fieldsDrafts fields)]
  | .definitionList items => do
    return [.element "definition_list" [] (← definitionsDrafts items)]
  | .quote blocks => do return [.element "block_quote" [] (← blocksDrafts blocks)]
  | .comment text => pure [.done (Node.withText "comment" [("xml:space", .str "preserve")] text)]
  | .directive line name arguments options blocks lines =>
    directiveDrafts line name arguments options (blocksDrafts blocks) lines
  | .problem line message => do
    warn (some line) message
    return []

def blocksDrafts : List Block → Reader (List Draft)
  | [] => pure []
  | b :: bs => do
    let first ← blockDrafts b
    let rest ← blocksDrafts bs
    return first ++ rest

def itemsDrafts : List (List Block) → Reader (List (List Draft))
  | [] => pure []
  | item :: items => do
    let first ← blocksDrafts item
    let rest ← itemsDrafts items
    return first :: rest

def fieldsDrafts : List (List Inline × Nat × List Block) → Reader (List Draft)
  | [] => pure []
  | (name, line, body) :: fields => do
    let shownName ← inlinesDrafts line name
    let shownBody ← blocksDrafts body
    let rest ← fieldsDrafts fields
    return fieldOf shownName shownBody :: rest

def definitionsDrafts : List (List Inline × Nat × List Block) → Reader (List Draft)
  | [] => pure []
  | (term, line, body) :: items => do
    let shownTerm ← inlinesDrafts line term
    let shownBody ← blocksDrafts body
    let rest ← definitionsDrafts items
    return .element "definition_list_item" []
      [.element "term" [] shownTerm, .element "definition" [] shownBody] :: rest
end

def fieldNames : Draft → List String
  | .element "field_list" _ fields =>
    fields.filterMap fun f => (fieldParts f).map fun (name, _) => Draft.plainTextAll name
  | _ => []

def splitMetadata : List Draft → List Draft × List String
  | d :: ds => if (fieldNames d).isEmpty && !(match d with
      | .element "field_list" _ _ => true
      | _ => false) then (d :: ds, []) else (ds, fieldNames d)
  | [] => ([], [])

def readDoc (doc text : String) : Reader (List Draft × List String) := do
  modify fun r => { r with doc, nesting := .top, anchors := [], serial := 0 }
  let drafts ← blocksDrafts (readDocument buildSpecs text)
  return splitMetadata drafts

end NetApiDoc.Build
