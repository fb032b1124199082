import NetApiDoc.Markup.Directive

set_option autoImplicit false

namespace NetApiDoc.Markup

open NetApiDoc.Text

inductive Block
  | paragraph (line : Nat) (content : List Inline)
  | bulletList (bullet : Char) (items : List (List Block))
  | fieldList (fields : List (List Inline × Nat × List Block))
  | definitionList (items : List (List Inline × Nat × List Block))
  | quote (blocks : List Block)
  | comment (text : String)
  | directive (line : Nat) (name : String) (arguments : List String)
      (options : List (String × Option String)) (blocks : List Block) (lines : List String)
  | problem (line : Nat) (message : List String)
  deriving Repr

abbrev Specs := String → Option DirectiveSpec

def bulletChars : List Char := ['-', '+', '*', '•', '‣', '⁃']

def bulletMarker : List Char → Option (Char × Nat)
  | [] => none
  | b :: rest =>
    if bulletChars.contains b then
      match rest with
      | [] => some (b, 1)
      | c :: _ => if c == ' ' then some (b, 1 + (rest.takeWhile (· == ' ')).length) else none
    else none

def explicitStart : List Char → Option (List Char)
  | '.' :: '.' :: rest =>
    match rest with
    | [] => some []
    | c :: _ => if c == ' ' then some rest else none
  | _ => none

def directiveMarker (afterDots : List Char) : Option (String × Nat) :=
  let spaces := (afterDots.takeWhile (· == ' ')).length
  let s := afterDots.drop spaces
  let name := nameRun s
  let t := s.drop name.length
  let (gap, t) := match t with
    | ' ' :: r => (1, r)
    | r => (0, r)
  match t with
  | ':' :: ':' :: r =>
    let trailing := (r.takeWhile (· == ' ')).length
    if spaces > 0 && isSimpleName name && (r.isEmpty || trailing > 0) then
      some (String.ofList name, 2 + spaces + name.length + gap + 2 + trailing)
    else none
  | _ => none
where
  nameRun : List Char → List Char
    | [] => []
    | c :: rest =>
      if isBlank c then []
      else if c == ':' && rest.head? == some ':' then []
      else c :: nameRun rest

def unindentProblem (element : String) (finished : Bool) (next : List Line) : List Block :=
  match finished, next with
  | false, l :: _ =>
    [.problem l.number [element ++ " ends without a blank line; unexpected unindent."]]
  | _, _ => []

def lineTexts (lines : List Line) : List String := lines.map fun l => String.ofList l.text

def bulletItems (body : List Line → List Block) (bullet : Char) :
    Nat → List Line → List (List Block) × List Line × Bool
  | 0, lines => ([], lines, true)
  | fuel + 1, lines =>
    let lines := dropLeadingBlank lines
    match lines with
    | [] => ([], [], true)
    | l :: ls =>
      match bulletMarker l.text with
      | some (b, col) =>
        if b != bullet then ([], l :: ls, true)
        else
          let item := if (l.text.drop col).isEmpty then
              let ib := indentedBlock (l :: ls) (some col) none
              { ib with lines := dropLeadingBlank ib.lines }
            else indentedBlock (l :: ls) (some col) (some col)
          let (more, rest, finished) := bulletItems body bullet fuel item.rest
          (body item.lines :: more, rest,
            if more.isEmpty then item.blankFinish else finished)
      | none => ([], l :: ls, true)

def fieldItems (body : List Line → List Block) :
    Nat → List Line → List (List Inline × Nat × List Block) × List Line × Bool
  | 0, lines => ([], lines, true)
  | fuel + 1, lines =>
    let lines := dropLeadingBlank lines
    match lines with
    | [] => ([], [], true)
    | l :: ls =>
      match fieldMarker l.text with
      | some (name, col) =>
        let ib := indentedBlock (l :: ls) (some col) none
        let (more, rest, finished) := fieldItems body fuel ib.rest
        ((inlines name, l.number, body (dropLeadingBlank ib.lines)) :: more, rest,
          if more.isEmpty then ib.blankFinish else finished)
      | none => ([], l :: ls, true)

def paragraphRest : List Line → List Line × List Line × List Block
  | [] => ([], [], [])
  | l :: ls =>
    if l.isBlank then ([], l :: ls, [])
    else if l.text.head? == some ' ' then
      ([], l :: ls, [.problem l.number ["Unexpected indentation."]])
    else
      let (more, rest, problems) := paragraphRest ls
      (l :: more, rest, problems)

def paragraphOf (lines : List Line) : Block :=
  let text := String.intercalate "\n" (lineTexts lines)
  .paragraph ((lines.head?.map (·.number)).getD 0)
    (inlines (dropTrailingBlanks text.toList))

def directiveBlock (specs : Specs) (body : List Line → List Block) (l : Line)
    (ls : List Line) (name : String) (col : Nat) : List Block × Indented :=
  match specs (lowerText name) with
  | none =>
    let ib := indentedBlock (l :: ls) (some 0) none
    let raw := (l :: ls).take ib.lines.length
    let shown := l.text :: (raw.drop 1).map (·.text)
    ([.problem l.number (("Unknown directive type \"" ++ name ++ "\".") ::
      shown.map String.ofList)], ib)
  | some spec =>
    let ib := indentedBlock (l :: ls) (some col) none
    let raw := lineTexts ((l :: ls).take ib.lines.length)
    match splitDirective spec ib.lines with
    | .ok parts =>
      let blocks := if spec.parsesContent then body parts.content else []
      let kept := if spec.parsesContent then [] else lineTexts parts.content
      ([.directive l.number name parts.arguments parts.options blocks kept], ib)
    | .error reason =>
      ([.problem l.number (("Error in \"" ++ name ++ "\" directive:") ::
        ((reason ++ ".").splitOn "\n") ++ raw)], ib)

def explicitConstruct (specs : Specs) (body : List Line → List Block) (l : Line)
    (ls : List Line) (afterDots : List Char) : List Block × List Line × Bool :=
  match directiveMarker afterDots with
  | some (name, col) =>
    let (blocks, ib) := directiveBlock specs body l ls name col
    (blocks, ib.rest, ib.blankFinish)
  | none =>
    if (stripBlanks afterDots).isEmpty && (ls.head?.map Line.isBlank).getD true then
      ([.comment ""], ls, true)
    else
      let col := 2 + (afterDots.takeWhile (· == ' ')).length
      let ib := indentedBlock (l :: ls) (some col) none
      let text := lineTexts (dropTrailingBlank (dropLeadingBlank ib.lines))
      ([.comment (String.intercalate "\n" text)], ib.rest, ib.blankFinish)

def explicitList (specs : Specs) (body : List Line → List Block) :
    Nat → List Line → Bool → List Block × List Line × Bool
  | 0, lines, finished => ([], lines, finished)
  | fuel + 1, lines, finished =>
    match lines with
    | l :: ls =>
      match explicitStart l.text with
      | some afterDots =>
        let (blocks, rest, finished) := explicitConstruct specs body l ls afterDots
        let (more, rest, finished) := explicitList specs body fuel rest finished
        (blocks ++ more, rest, finished)
      | none => ([], l :: ls, finished)
    | [] => ([], [], finished)

def definitionItems (body : List Line → List Block) :
    Nat → List Line → List (List Inline × Nat × List Block) × List Line × Bool
  | 0, lines => ([], lines, true)
  | fuel + 1, lines =>
    match lines with
    | t :: d :: rest =>
      if !t.isBlank && t.text.head? != some ' ' && d.text.head? == some ' ' then
        let ib := indentedBlock (d :: rest) none none
        let (more, after, finished) := definitionItems body fuel ib.rest
        ((inlines t.text, t.number, body ib.lines) :: more, after,
          if more.isEmpty then ib.blankFinish else finished)
      else ([], t :: d :: rest, true)
    | _ => ([], lines, true)

def readBody (specs : Specs) : Nat → List Line → List Block
  | 0, _ => []
  | _ + 1, [] => []
  | fuel + 1, l :: ls =>
    let body := readBody specs fuel
    if l.isBlank then readBody specs fuel ls
    else if l.text.head? == some ' ' then
      let ib := indentedBlock (l :: ls) none none
      .quote (body ib.lines) :: unindentProblem "Block quote" ib.blankFinish ib.rest ++
        readBody specs fuel ib.rest
    else match bulletMarker l.text with
    | some (b, _) =>
      let (items, rest, finished) := bulletItems body b (l :: ls).length (l :: ls)
      .bulletList b items :: unindentProblem "Bullet list" finished rest ++
        readBody specs fuel rest
    | none =>
    match fieldMarker l.text with
    | some _ =>
      let (fields, rest, finished) := fieldItems body (l :: ls).length (l :: ls)
      .fieldList fields :: unindentProblem "Field list" finished rest ++ readBody specs fuel rest
    | none =>
    match explicitStart l.text with
    | some _ =>
      let (blocks, rest, finished) := explicitList specs body (l :: ls).length (l :: ls) true
      blocks ++ unindentProblem "Explicit markup" finished rest ++ readBody specs fuel rest
    | none =>
    match ls with
    | d :: _ =>
      if !d.isBlank && d.text.head? == some ' ' then
        let (items, rest, finished) := definitionItems body (l :: ls).length (l :: ls)
        .definitionList items :: unindentProblem "Definition list" finished rest ++
          readBody specs fuel rest
      else
        let (more, rest, problems) := paragraphRest ls
        paragraphOf (l :: more) :: problems ++ readBody specs fuel rest
    | [] => [paragraphOf [l]]

def readDocument (specs : Specs) (text : String) : List Block :=
  let lines := sourceLines text
  readBody specs (lines.length + (lines.map (·.text.length)).foldr (· + ·) 0 + 1) lines

end NetApiDoc.Markup
