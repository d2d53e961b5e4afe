import ServiceBroker.Extension.Args
import ServiceBroker.Text.Quoted

/-!
Registries of extensions. A registry holds one factory under each name; resolving a name configures
the factory registered under it.
-/

namespace ServiceBroker

open Extension (BindingFault)

inductive ExtensionError where
  | unknown (name : String) (known : List String)
  | duplicateName (name : String)
  | invalidConfiguration (name : String) (fault : BindingFault)
deriving DecidableEq, Repr

def ExtensionError.message : ExtensionError → String
  | .unknown name known =>
    "unknown extension '" ++ name ++ "' (registered: " ++ ", ".intercalate known ++ ")"
  | .duplicateName name => "extension '" ++ name ++ "' is registered more than once"
  | .invalidConfiguration name fault =>
    "invalid configuration for extension '" ++ name ++ "': " ++ fault.message

/-- Makes extensions of one kind from arguments. -/
structure Factory (α : Type) where
  name : String
  create : Parameters → Except BindingFault α

namespace Factory

variable {S α : Type}

/-- A factory that binds the arguments to a configuration and makes the extension from it. -/
def of (name : String) (config : Json.View S) (make : S → α) : Factory α :=
  ⟨name, fun args => make <$> Extension.bind config args⟩

end Factory

structure Registry (α : Type) where
  factories : Dict (Parameters → Except BindingFault α)

namespace Registry

variable {α : Type}

/-- Registers factories one after another; a name that is taken is refused. -/
def register (registry : Registry α) : List (Factory α) → Except ExtensionError (Registry α)
  | [] => .ok registry
  | factory :: rest =>
    if registry.factories.contains factory.name then .error (.duplicateName factory.name)
    else register ⟨registry.factories.insert factory.name factory.create⟩ rest

def ofFactories (factories : List (Factory α)) : Except ExtensionError (Registry α) :=
  register ⟨.empty⟩ factories

/-- The registered names, ascending. -/
def names (registry : Registry α) : List String := registry.factories.keys

def contains (registry : Registry α) (name : String) : Bool := registry.factories.contains name

def size (registry : Registry α) : Nat := registry.factories.size

/-- The extension of a name, configured with the arguments. -/
def resolve (registry : Registry α) (name : String) (args : Parameters) :
    Except ExtensionError α :=
  match registry.factories.get? name with
  | none => .error (.unknown name registry.names)
  | some create => (create args).mapError (.invalidConfiguration name)

def resolveSpec (registry : Registry α) (spec : ExtensionSpec) : Except ExtensionError α :=
  registry.resolve spec.name spec.args

/-- The registry as a log shows it. -/
def describe (registry : Registry α) : String :=
  "ExtensionRegistry \x7b names: [" ++ ", ".intercalate (registry.names.map Text.quoted) ++ "] \x7d"

end Registry

end ServiceBroker
