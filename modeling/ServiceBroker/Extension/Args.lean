import ServiceBroker.Catalog.Entry
import ServiceBroker.Extension.Key
import ServiceBroker.Json.View
import ServiceBroker.Text.Blank

/-!
Binding the arguments of an extension to its typed configuration. The arguments are first brought to
canonical names; a name that is given twice is refused before any value is looked at.
-/

namespace ServiceBroker.Extension

open Json (Value View Mismatch)

inductive BindingFault where
  | repeated (key : String)
  | mismatch (mismatch : Mismatch)
deriving DecidableEq, Repr

def BindingFault.message : BindingFault → String
  | .repeated key => "argument '" ++ key ++ "' is supplied more than once"
  | .mismatch m => m.message

/-- Adds arguments under their canonical names; the first name that is already taken is the
fault. -/
def addCanonical (bound : Parameters) : List (String × Value) → Except BindingFault Parameters
  | [] => .ok bound
  | (key, value) :: rest =>
    let canonical := canonicalKey key
    if bound.contains canonical then .error (.repeated canonical)
    else addCanonical (bound.insert canonical value) rest

def canonicalArgs (args : Parameters) : Except BindingFault Parameters :=
  addCanonical .empty args.entries

/-- The configuration that the arguments describe. -/
def bind {S : Type} (view : View S) (args : Parameters) : Except BindingFault S := do
  let bound ← canonicalArgs args
  (view (.ofDict bound)).mapError .mismatch

/-- The items between commas, trimmed and without the empty ones. -/
def splitItems (s : String) : List String :=
  (((Text.splitAt ',' s.toList).map Text.trim).filter (!·.isEmpty)).map String.ofList

/-- A list of texts, taken as it is, or one text with the items between commas. -/
def stringOrList : View (List String)
  | .text s => .ok (splitItems s)
  | .array items => (items.mapM View.text).mapError fun _ => .stringOrList
  | _ => .error .stringOrList

/-- The configuration of an extension without arguments. -/
def noConfig : View Unit := View.closed "EmptyConfig" () []

end ServiceBroker.Extension
