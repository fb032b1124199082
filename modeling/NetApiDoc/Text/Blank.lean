/-!
Blank characters: the white space of text in Unicode 14.0. Besides the ASCII blanks (tab to
carriage return and space) these are the four information separators 0x1C to 0x1F, next line,
no-break space, and the spaces and separators of the other blocks. Stripping and collapsing
blank runs are stated on lists of characters.
-/

set_option autoImplicit false

namespace NetApiDoc.Text

def isBlank (c : Char) : Bool :=
  let v := c.val
  (0x9 ≤ v && v ≤ 0xD) || (0x1C ≤ v && v ≤ 0x20) || v == 0x85 || v == 0xA0 || v == 0x1680 ||
    (0x2000 ≤ v && v ≤ 0x200A) || v == 0x2028 || v == 0x2029 || v == 0x202F || v == 0x205F ||
    v == 0x3000

def stripBlanks (cs : List Char) : List Char :=
  ((cs.dropWhile isBlank).reverse.dropWhile isBlank).reverse

def collapseBlanksAfter (inRun : Bool) : List Char → List Char
  | [] => []
  | c :: cs =>
    if isBlank c then
      if inRun then collapseBlanksAfter true cs else ' ' :: collapseBlanksAfter true cs
    else c :: collapseBlanksAfter false cs

def collapseBlanks (cs : List Char) : List Char :=
  collapseBlanksAfter false cs

theorem length_stripBlanks_le (cs : List Char) : (stripBlanks cs).length ≤ cs.length := by
  simp only [stripBlanks, List.length_reverse]
  have h1 := (List.dropWhile_suffix isBlank (l := cs)).length_le
  have h2 := (List.dropWhile_suffix isBlank (l := (cs.dropWhile isBlank).reverse)).length_le
  rw [List.length_reverse] at h2
  omega

end NetApiDoc.Text
