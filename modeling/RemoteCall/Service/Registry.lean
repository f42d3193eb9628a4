import RemoteCall.Service.Name
import RemoteCall.Error.Call
import RemoteCall.Log

/-!
# The registry

Which methods there are, by service and by method name in normal form.  Of several services, and of
several methods of a service, with one name the first counts: a later service is refused, a later
method is skipped, and so is a method whose name is not usable.  A service without methods is
refused.

`find` takes the two names apart and `lookup` takes them joined by a dot, as calls do.  What a
method is makes no difference here.
-/

namespace RemoteCall

/-- The methods of registered services, by the normal forms of both names. -/
structure Registry (μ : Type) where
  services : List (String × List (String × μ))

/-- Why a call's target cannot be found; `name` is the target. -/
inductive LookupError
  /-- It does not name a service and a method. -/
  | illFormed (name : String)
  | unknownService (name : String)
  | unknownMethod (name : String)
  deriving DecidableEq, Repr

/-- The text of a failed look-up. -/
def LookupError.message : LookupError → String
  | illFormed name => "rpc: service/method request ill-formed: " ++ name
  | unknownService name => "rpc: can't find service " ++ name
  | unknownMethod name => "rpc: can't find method " ++ name

namespace Registry

variable {μ : Type}

/-- The registry without services. -/
def empty : Registry μ := ⟨[]⟩

instance : Inhabited (Registry μ) := ⟨empty⟩

/-- Whether no service is registered. -/
def isEmpty (r : Registry μ) : Bool := r.services.isEmpty

/-! ## Registering -/

/-- What becomes of one entry of a method table, given the methods kept so far. -/
inductive Fate
  | unusable
  | duplicate
  | kept
  deriving DecidableEq, Repr

/-- What becomes of a method called `name`. -/
def fate (kept : List (String × μ)) (name : String) : Fate :=
  if Name.isValid name then
    if (kept.lookup (Name.camelCase name)).isSome then .duplicate else .kept
  else .unusable

/-- The methods of a table that are kept, behind those kept so far. -/
def select (kept : List (String × μ)) : List (String × μ) → List (String × μ)
  | [] => kept
  | (name, method) :: table =>
    match fate kept name with
    | .kept => select (kept ++ [(Name.camelCase name, method)]) table
    | _ => select kept table

/-- Registers a service under `name` with a table of methods. -/
def register (r : Registry μ) (name : String) (table : List (String × μ)) :
    Except RegistrationError (Registry μ) :=
  let service := Name.camelCase name
  if Name.isValid name then
    if (r.services.lookup service).isSome then .error (.alreadyDefined service)
    else
      let methods := select [] table
      if methods.isEmpty then .error (.noMethods service)
      else .ok ⟨r.services ++ [(service, methods)]⟩
  else .error (.invalidName name)

/-- The registry of these services, registered one after the other. -/
def ofServices (services : List (String × List (String × μ))) :
    Except RegistrationError (Registry μ) :=
  services.foldlM (fun r (name, table) => r.register name table) empty

/-! ## Looking up -/

/-- The method of these names. -/
def find (r : Registry μ) (service method : String) : Option μ :=
  match r.services.lookup (Name.camelCase service) with
  | none => none
  | some methods => methods.lookup (Name.camelCase method)

/-- The method that a call names. -/
def lookup (r : Registry μ) (name : String) : Except LookupError μ :=
  match Name.split? name with
  | none => .error (.illFormed name)
  | some (service, method) =>
    match r.services.lookup (Name.camelCase service) with
    | none => .error (.unknownService name)
    | some methods =>
      match methods.lookup (Name.camelCase method) with
      | none => .error (.unknownMethod name)
      | some found => .ok found

/-- The names of all services, in ascending order. -/
def serviceNames (r : Registry μ) : List String :=
  (r.services.map (·.1)).mergeSort fun a b => decide (a ≤ b)

/-- The names of a service's methods, in ascending order. -/
def methodNames (r : Registry μ) (service : String) : List String :=
  (((r.services.lookup (Name.camelCase service)).getD []).map (·.1)).mergeSort
    fun a b => decide (a ≤ b)

/-! ## What is logged -/

/-- The log lines for the entries of a method table that are skipped. -/
def skipLog (service : String) (kept : List (String × μ)) : List (String × μ) → List LogLine
  | [] => []
  | (name, method) :: table =>
    match fate kept name with
    | .unusable =>
      ⟨.warn, "skipping method with unusable name",
        [("service", service), ("method", Text.quoted name)]⟩ :: skipLog service kept table
    | .duplicate =>
      ⟨.warn, "skipping duplicate method",
        [("service", service), ("method", Name.camelCase name)]⟩ :: skipLog service kept table
    | .kept => skipLog service (kept ++ [(Name.camelCase name, method)]) table

/-- The log lines for an attempt to register a service. -/
def registerLog (r : Registry μ) (name : String) (table : List (String × μ)) : List LogLine :=
  let service := Name.camelCase name
  match r.register name table with
  | .error (.noMethods _) => skipLog service [] table
  | .error _ => []
  | .ok _ =>
    skipLog service [] table ++
      [⟨.debug, "registered service",
        [("service", service), ("methods", Nat.repr (select [] table).length)]⟩]

end Registry

end RemoteCall
