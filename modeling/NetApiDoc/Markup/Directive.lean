import NetApiDoc.Markup.Source
import NetApiDoc.Markup.Inline
import NetApiDoc.Text.Lower

set_option autoImplicit false

namespace NetApiDoc.Markup

open NetApiDoc.Text

inductive OptionKind
  | flag
  | text
  | requiredText
  | number
  | numberOrNothing
  deriving DecidableEq, Repr

structure DirectiveSpec where
  requiredArguments : Nat
  optionalArguments : Nat
  finalWhitespace : Bool
  options : List (String × OptionKind)
  hasContent : Bool
  parsesContent : Bool

def quoteValue (s : String) : String :=
  let cs := s.toList
  let q := if cs.contains '\'' && !cs.contains '"' then '"' else '\''
  let body := cs.flatMap fun c =>
    if c == '\\' then ['\\', '\\'] else if c == q then ['\\', c]
    else if c == '\n' then ['\\', 'n'] else [c]
  String.ofList (q :: body ++ [q])

def fieldMarker (s : List Char) : Option (List Char × Nat) :=
  match s with
  | ':' :: c :: _ => if c == ':' || c == ' ' then none else scan [] (s.drop 1) 1
  | _ => none
where
  scan (before : List Char) : List Char → Nat → Option (List Char × Nat)
    | [], _ => none
    | '\\' :: d :: rest, col => scan (d :: '\\' :: before) rest (col + 2)
    | ':' :: rest, col =>
      match rest with
      | [] => if before.head? == some ' ' || before.isEmpty then none
        else some (before.reverse, col + 1)
      | d :: _ =>
        if d == ' ' then
          if before.head? == some ' ' || before.isEmpty then none
          else some (before.reverse, col + 1 + (rest.takeWhile (· == ' ')).length)
        else if d == backquote then none
        else scan (':' :: before) rest (col + 1)
    | c :: rest, col => if c == '\\' then none else scan (c :: before) rest (col + 1)

def wordsFrom (current : List Char) : List Char → List (List Char)
  | [] => if current.isEmpty then [] else [current.reverse]
  | c :: rest =>
    if isBlank c then
      if current.isEmpty then wordsFrom [] rest else current.reverse :: wordsFrom [] rest
    else wordsFrom (c :: current) rest

def words (cs : List Char) : List (List Char) := wordsFrom [] cs

def bodyParagraphs (lines : List Line) : List String :=
  let runs := (lines.map fun l => if l.isBlank then none else some l.text).splitOn none
  (runs.filter (!·.isEmpty)).map fun r =>
    String.intercalate "\n" (r.filterMap id |>.map String.ofList)

def optionFields (fuel : Nat) (lines : List Line) : Except String (List (List Char × List String)) :=
  match fuel, lines with
  | 0, _ => .ok []
  | _, [] => .ok []
  | fuel + 1, l :: ls =>
    if l.isBlank then optionFields fuel ls
    else match fieldMarker l.text with
      | some (name, col) =>
        let block := indentedBlock (l :: ls) (some col) none
        match optionFields fuel block.rest with
        | .ok more => .ok ((name, bodyParagraphs block.lines) :: more)
        | .error e => .error e
      | none => .error "invalid option block"

def readsAsNumber (s : String) : Bool :=
  let cs := stripBlanks s.toList
  let ds := match cs with
    | '+' :: r => r
    | '-' :: r => r
    | r => r
  !ds.isEmpty && ds.head? != some '_' && ds.getLast? != some '_' &&
    ds.all (fun c => c.isDigit || c == '_') && !(ds.zip ds.tail).any (fun (a, b) => a == '_' && b == '_')

def convertOption (name : String) (kind : OptionKind) (value : Option String) :
    Except String (Option String) :=
  let invalid (reason : String) : Except String (Option String) :=
    .error ("invalid option value: (option: \"" ++ name ++ "\"; value: " ++
      (match value with | some v => quoteValue v | none => "None") ++ ")\n" ++ reason)
  match kind, value with
  | .flag, none => .ok none
  | .flag, some v =>
    if (stripBlanks v.toList).isEmpty then .ok none
    else invalid ("no argument is permitted; \"" ++ v ++ "\" supplied")
  | .text, v => .ok (some (v.getD ""))
  | .requiredText, none => invalid "argument required but none supplied"
  | .requiredText, some v => .ok (some v)
  | .number, none =>
    invalid "int() argument must be a string, a bytes-like object or a real number, not 'NoneType'"
  | .number, some v =>
    if readsAsNumber v then .ok (some v)
    else invalid ("invalid literal for int() with base 10: " ++ quoteValue v)
  | .numberOrNothing, none => .ok (some "999")
  | .numberOrNothing, some v =>
    if v.isEmpty then .ok (some "999")
    else if readsAsNumber v then .ok (some v)
    else invalid ("invalid literal for int() with base 10: " ++ quoteValue v)

def readOptions (spec : DirectiveSpec) (lines : List Line) :
    Except String (List (String × Option String)) := do
  let fields ← optionFields lines.length lines
  let named ← fields.mapM fun (name, body) => do
    let plain := String.ofList (unescape (markEscapes name))
    if (words plain.toList).length != 1 then
      throw "invalid option data: extension option field name may not contain multiple words"
    let lower := lowerText plain
    match body with
    | [] => pure (lower, none)
    | [p] => pure (lower, some p)
    | _ => throw ("invalid option data: extension option field body may contain\na single " ++
        "paragraph only (option \"" ++ lower ++ "\")")
  named.foldlM (fun (acc : List (String × Option String)) (name, value) => do
    match spec.options.lookup name with
    | none => throw ("unknown option: \"" ++ name ++ "\"")
    | some kind =>
      if (acc.lookup name).isSome then throw ("invalid option data: duplicate option \"" ++ name ++ "\"")
      let v ← convertOption name kind value
      pure (acc ++ [(name, v)])) []

def readArguments (spec : DirectiveSpec) (lines : List Line) : Except String (List String) :=
  let text := String.intercalate "\n" (lines.map fun l => String.ofList l.text)
  let ws := words text.toList
  let most := spec.requiredArguments + spec.optionalArguments
  if ws.length < spec.requiredArguments then
    .error (toString spec.requiredArguments ++ " argument(s) required, " ++
      toString ws.length ++ " supplied")
  else if ws.length > most then
    if spec.finalWhitespace then
      let firsts := ws.take (most - 1)
      let restText := (firsts.foldl (fun (cs : List Char) w =>
        ((cs.dropWhile isBlank).drop w.length)) text.toList).dropWhile isBlank
      .ok ((firsts.map String.ofList) ++ [String.ofList restText])
    else .error ("maximum " ++ toString most ++ " argument(s) allowed, " ++
      toString ws.length ++ " supplied")
  else .ok (ws.map String.ofList)

structure DirectiveParts where
  arguments : List String
  options : List (String × Option String)
  content : List Line

def splitDirective (spec : DirectiveSpec) (block : List Line) : Except String DirectiveParts := do
  let lines := match block with
    | l :: ls => if l.isBlank then ls else l :: ls
    | [] => []
  let lines := dropTrailingBlank lines
  let takesText := spec.requiredArguments + spec.optionalArguments > 0
  let (argBlock, content, fromBlank) :=
    if !lines.isEmpty && (takesText || !spec.options.isEmpty) then
      let argBlock := lines.takeWhile (!·.isBlank)
      (argBlock, lines.drop (argBlock.length + 1), lines.drop argBlock.length)
    else ([], lines, [])
  let (argBlock, options) ←
    if spec.options.isEmpty then pure (argBlock, [])
    else
      let before := argBlock.takeWhile fun l => (fieldMarker l.text).isNone
      let optionLines := argBlock.drop before.length
      let options ← if optionLines.isEmpty then pure [] else readOptions spec optionLines
      pure (before, options)
  let content := if !argBlock.isEmpty && !takesText then argBlock ++ fromBlank else content
  let argBlock := if !argBlock.isEmpty && !takesText then [] else argBlock
  let content := dropLeadingBlank content
  let arguments ← if takesText then readArguments spec argBlock else pure []
  if !content.isEmpty && !spec.hasContent then throw "no content permitted"
  return ⟨arguments, options, content⟩

end NetApiDoc.Markup
