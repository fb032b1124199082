import NetApiDoc.Text.Blank

set_option autoImplicit false

namespace NetApiDoc.Markup

open NetApiDoc.Text

structure Line where
  number : Nat
  text : List Char
  deriving DecidableEq, Repr

def isLineBreak (c : Char) : Bool :=
  c == '\n' || c == '\r' || c == '\x1c' || c == '\x1d' || c == '\x1e' || c == '\x85' ||
    c == '\u2028' || c == '\u2029'

def splitLinesFrom (current : List Char) : List Char → List (List Char)
  | [] => if current.isEmpty then [] else [current.reverse]
  | '\r' :: '\n' :: rest => current.reverse :: splitLinesFrom [] rest
  | c :: rest =>
    if isLineBreak c then current.reverse :: splitLinesFrom [] rest
    else splitLinesFrom (c :: current) rest

def splitLines (cs : List Char) : List (List Char) := splitLinesFrom [] cs

def expandTabsFrom (column : Nat) : List Char → List Char
  | [] => []
  | '\t' :: rest =>
    let width := 8 - column % 8
    List.replicate width ' ' ++ expandTabsFrom (column + width) rest
  | c :: rest => c :: expandTabsFrom (column + 1) rest

def dropTrailingBlanks (cs : List Char) : List Char :=
  (cs.reverse.dropWhile isBlank).reverse

def sourceLines (text : String) : List Line :=
  let spaced := text.toList.map fun c => if c == '\x0b' || c == '\x0c' then ' ' else c
  (splitLines spaced).zipIdx.map fun (l, i) =>
    ⟨i + 1, dropTrailingBlanks (expandTabsFrom 0 l)⟩

def Line.isBlank (l : Line) : Bool := l.text.all Text.isBlank

def Line.indent (l : Line) : Nat := (l.text.takeWhile Text.isBlank).length

def Line.dropChars (n : Nat) (l : Line) : Line := ⟨l.number, l.text.drop n⟩

def Line.inBlock (known : Option Nat) (l : Line) : Bool :=
  match l.text with
  | [] => true
  | c :: _ => c == ' ' && match known with
    | some n => (l.text.take n).all Text.isBlank
    | none => true

structure Indented where
  lines : List Line
  rest : List Line
  indent : Nat
  blankFinish : Bool

def leastIndent (lines : List Line) : Option Nat :=
  (lines.filter (!·.isBlank)).foldl (fun acc l => some (match acc with
    | some n => min n l.indent
    | none => l.indent)) none

def indentedBlock (lines : List Line) (first : Option Nat) (known : Option Nat) : Indented :=
  let (head, after) := match first, lines with
    | some col, l :: ls => ([l.dropChars col], ls)
    | _, ls => ([], ls)
  let body := after.takeWhile (Line.inBlock known)
  let rest := after.drop body.length
  let indent := match known with
    | some n => n
    | none => (leastIndent body).getD 0
  let finish := match rest with
    | [] => true
    | _ => match (head ++ body).getLast? with
      | some l => l.isBlank
      | none => false
  ⟨head ++ body.map (Line.dropChars indent), rest, indent, finish⟩

def dropLeadingBlank (lines : List Line) : List Line := lines.dropWhile Line.isBlank

def dropTrailingBlank (lines : List Line) : List Line :=
  (lines.reverse.dropWhile Line.isBlank).reverse

end NetApiDoc.Markup
