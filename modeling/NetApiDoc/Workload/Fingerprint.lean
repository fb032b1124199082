import NetApiDoc.Workload.Datum
import NetApiDoc.Text.Sha256

set_option autoImplicit false

namespace NetApiDoc.Workload

def builderNodeTags : List String :=
  ["toctree", "desc", "desc_signature", "desc_signature_line", "desc_addname", "desc_type",
    "desc_returns", "desc_name", "desc_parameterlist", "desc_parameter", "desc_optional",
    "desc_annotation", "desc_content", "versionmodified", "seealso", "productionlist",
    "production", "index", "centered", "acks", "hlist", "hlistcol", "compact_paragraph",
    "glossary", "only", "start_of_file", "highlightlang", "tabular_col_spec", "meta",
    "pending_xref", "number_reference", "download_reference", "literal_emphasis",
    "literal_strong", "abbreviation", "manpage"]

def elementClass (tag : String) : String :=
  (if builderNodeTags.contains tag then "sphinx.addnodes." else "docutils.nodes.") ++ tag

mutual
def Datum.writeAfter (acc : String) : Datum → String
  | .none => acc ++ "None"
  | .count n => acc ++ toString n
  | .text s => acc ++ "s" ++ s
  | .node (.text s) => acc ++ "s" ++ s
  | .node (.element tag _ _) => acc ++ "<" ++ elementClass tag ++ ">"
  | .list items => Datum.writeAllAfter (acc ++ "L" ++ toString items.length) items

def Datum.writeAllAfter (acc : String) : List Datum → String
  | [] => acc
  | d :: ds => Datum.writeAllAfter (d.writeAfter acc) ds
end

def Datum.shapeText (d : Datum) : String := d.writeAfter ""

def Datum.fingerprint (d : Datum) : String := Text.sha256Hex d.shapeText

def Datum.typeName : Datum → String
  | .none => "NoneType"
  | .count _ => "int"
  | .text _ => "str"
  | .node (.text _) => "Text"
  | .node (.element tag _ _) => tag
  | .list _ => "list"

theorem writeAllAfter_append (acc : String) (xs ys : List Datum) :
    Datum.writeAllAfter acc (xs ++ ys) = Datum.writeAllAfter (Datum.writeAllAfter acc xs) ys := by
  induction xs generalizing acc with
  | nil => simp [Datum.writeAllAfter]
  | cons d ds ih => simp [Datum.writeAllAfter, ih]

end NetApiDoc.Workload
