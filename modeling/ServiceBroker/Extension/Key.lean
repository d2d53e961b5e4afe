import ServiceBroker.Text.Upper

/-!
Argument names in one form. A name may be spelled with hyphens, with underscores or in camel case;
the canonical form is the camel case.
-/

namespace ServiceBroker.Extension

def isSeparator (c : Char) : Bool := c == '-' || c == '_'

/-- Drops the separators and raises the character after each run of them, unless nothing has been
written yet. -/
def canonicalChars (started raise : Bool) : List Char → List Char
  | [] => []
  | c :: rest =>
    if isSeparator c then canonicalChars started started rest
    else (if raise then Text.upper c else [c]) ++ canonicalChars true false rest

/-- The canonical form of an argument name. -/
def canonicalKey (key : String) : String :=
  String.ofList (canonicalChars false false key.toList)

end ServiceBroker.Extension
