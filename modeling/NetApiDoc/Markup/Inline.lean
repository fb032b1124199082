import NetApiDoc.Text.Word
import NetApiDoc.Text.Blank

set_option autoImplicit false

namespace NetApiDoc.Markup

open NetApiDoc.Text

def escapeMark : Char := '\x00'

def markEscapes : List Char → List Char
  | [] => []
  | '\\' :: c :: rest => escapeMark :: c :: markEscapes rest
  | ['\\'] => [escapeMark]
  | c :: rest => c :: markEscapes rest

def unescape : List Char → List Char
  | [] => []
  | m :: c :: rest =>
    if m == escapeMark then
      if c == ' ' || c == '\n' then unescape rest else c :: unescape rest
    else m :: unescape (c :: rest)
  | [m] => if m == escapeMark then [] else [m]

def restoreBackslashes (cs : List Char) : List Char :=
  cs.map fun c => if c == escapeMark then '\\' else c

def backquote : Char := Char.ofNat 96

def isOpener (c : Char) : Bool :=
  "\"'(<[\x7b«‘“‹‚„".toList.contains c

def isCloser (c : Char) : Bool :=
  "\"')>]\x7d»’”›".toList.contains c

def isDelimiter (c : Char) : Bool :=
  "\\-/:¡·¿".toList.contains c ||
    (0x2010 ≤ c.val && c.val ≤ 0x2017) || (0x2020 ≤ c.val && c.val ≤ 0x2027) ||
    (0x2030 ≤ c.val && c.val ≤ 0x2038) || (0x3001 ≤ c.val && c.val ≤ 0x3003)

def isClosingDelimiter (c : Char) : Bool := "\\.,;!?".toList.contains c

def startsAfter : Option Char → Bool
  | none => true
  | some c => isBlank c || isOpener c || isDelimiter c

def endsBefore : Option Char → Bool
  | none => true
  | some c => isBlank c || c == escapeMark || isClosingDelimiter c || isDelimiter c ||
      isCloser c

def closes (o c : Char) : Bool :=
  match o with
  | '"' => c == '"' | '\'' => c == '\'' | '(' => c == ')' | '<' => c == '>'
  | '[' => c == ']' | '{' => c == '}' | '«' => c == '»' | '‘' => c == '’'
  | '“' => c == '”' | '‹' => c == '›'
  | _ => false

def isNameWordChar (c : Char) : Bool := isWordChar c && c != '_'

def isNameTail : List Char → Bool
  | [] => true
  | c :: rest =>
    if isNameWordChar c then isNameTail rest
    else if "-._+:".toList.contains c then
      match rest with
      | d :: _ => isNameWordChar d && isNameTail rest
      | [] => false
    else false

def isSimpleName : List Char → Bool
  | c :: rest => isNameWordChar c && isNameTail rest
  | [] => false

inductive Inline
  | text (s : String)
  | interpreted (role : Option String) (text : List Char)
  | styled (tag : String) (text : String)
  deriving DecidableEq, Repr

def rolePrefix : List Char → Option (List Char × List Char)
  | ':' :: rest =>
    let name := rest.takeWhile (· != backquote)
    match name.reverse with
    | ':' :: nameRev =>
      let n := nameRev.reverse
      if isSimpleName n then some (n, rest.drop name.length) else none
    | _ => none
  | _ => none

def endAfter (before : List Char) : Bool :=
  match before with
  | c :: d :: _ => !((isBlank c || c == escapeMark) && d != escapeMark)
  | [c] => !(isBlank c || c == escapeMark)
  | [] => false

def interpretedEnd (before : List Char) : List Char → Option (List Char × List Char)
  | [] => none
  | c :: rest =>
    if c == backquote && !before.isEmpty && endAfter before && endsBefore rest.head? then
      some (before.reverse, rest)
    else interpretedEnd (c :: before) rest

def styledEnd (close : List Char) (blankOnly : Bool) (before : List Char) :
    List Char → Option (List Char × List Char)
  | [] => none
  | c :: rest =>
    let here := c :: rest
    let beforeOk := if blankOnly then
        match before with
        | b :: _ => !isBlank b
        | [] => false
      else endAfter before
    if close.isPrefixOf here && !before.isEmpty && beforeOk &&
        endsBefore (here.drop close.length).head? then
      some (before.reverse, here.drop close.length)
    else styledEnd close blankOnly (c :: before) rest

def markupAt (prev : Option Char) (s : List Char) : Option (Inline × Char × List Char) :=
  if !startsAfter prev then none
  else
    let quoted (afterStart : List Char) : Bool :=
      match prev, afterStart.head? with
      | some p, some n => closes p n
      | some _, none => true
      | none, _ => false
    let openFree (afterStart : List Char) : Bool :=
      match afterStart.head? with
      | some n => !isBlank n
      | none => false
    match s with
    | '*' :: '*' :: rest =>
      if !openFree rest || quoted rest then none
      else (styledEnd ['*', '*'] false [] rest).map fun (t, r) =>
        (.styled "strong" (String.ofList (unescape t)), '*', r)
    | '*' :: rest =>
      if !openFree rest || quoted rest then none
      else (styledEnd ['*'] false [] rest).map fun (t, r) =>
        (.styled "emphasis" (String.ofList (unescape t)), '*', r)
    | ':' :: _ =>
      match rolePrefix s with
      | some (name, q :: rest) =>
        if q != backquote || !openFree rest || rest.head? == some backquote then none
        else (interpretedEnd [] rest).map fun (t, r) =>
          (.interpreted (some (String.ofList name)) t, backquote, r)
      | _ => none
    | q :: rest =>
      if q != backquote then none
      else match rest with
        | q2 :: rest2 =>
          if q2 == backquote then
            if !openFree rest2 || quoted rest2 then none
            else (styledEnd [backquote, backquote] true [] rest2).map fun (t, r) =>
              (.styled "literal" (String.ofList (restoreBackslashes t)), backquote, r)
          else if !openFree rest || quoted rest then none
          else (interpretedEnd [] rest).map fun (t, r) => (.interpreted none t, backquote, r)
        | [] => none
    | [] => none

def flushText (pending : List Char) : List Inline :=
  if pending.isEmpty then [] else [.text (String.ofList (unescape pending.reverse))]

def inlinesFrom : Nat → Option Char → List Char → List Char → List Inline
  | 0, _, pending, _ => flushText pending
  | _, _, pending, [] => flushText pending
  | fuel + 1, prev, pending, c :: rest =>
    match markupAt prev (c :: rest) with
    | some (i, last, after) => flushText pending ++ i :: inlinesFrom fuel (some last) [] after
    | none => inlinesFrom fuel (some c) (c :: pending) rest

def inlines (text : List Char) : List Inline :=
  let marked := markEscapes text
  inlinesFrom marked.length none [] marked

end NetApiDoc.Markup
