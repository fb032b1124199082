import NetApiDoc.Text.Blank
import NetApiDoc.Text.Dotted
import NetApiDoc.Markup.Inline

set_option autoImplicit false

namespace NetApiDoc.Reference

open NetApiDoc.Text

structure Link where
  title : String
  target : String
  deriving DecidableEq, Repr

/-- The explicit title and target of a role's text (with escape marks): the title is the
shortest nonempty start that blanks and an unescaped `<` follow, and the target runs from there
to the closing `>` that ends the text. `title` holds the start passed over, reversed. -/
def explicitTitleFrom (title : List Char) : List Char → Option (List Char × List Char)
  | [] => none
  | c :: rest =>
    let here := c :: rest
    let blanks := here.takeWhile isBlank
    let opened := match here.drop blanks.length with
      | '<' :: inner =>
        let before := if blanks.isEmpty then title.head? else blanks.getLast?
        if before != some Markup.escapeMark && inner.getLast? == some '>' then
          some (title.reverse, inner.dropLast)
        else none
      | _ => none
    match title, opened with
    | _ :: _, some found => some found
    | _, _ => explicitTitleFrom (c :: title) rest

def explicitTitle (text : List Char) : Option (List Char × List Char) :=
  explicitTitleFrom [] text

def Link.ofRole (explicit : Bool) (title target : String) : Link :=
  let target := String.ofList (collapseBlanks target.toList)
  if explicit then
    if title == target then ⟨title, target⟩
    else
      let both := title ++ "<" ++ target ++ ">"
      ⟨both, both⟩
  else
    let t := title.toList.dropWhile (· == '.')
    let shown := match t with
      | '~' :: rest => lastPart rest
      | _ => t
    ⟨String.ofList shown, String.ofList (target.toList.dropWhile (· == '~'))⟩

end NetApiDoc.Reference
