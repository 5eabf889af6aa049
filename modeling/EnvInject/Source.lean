import EnvInject.Secret.Collect

/-!
# Sources of secrets

A source gives the secrets of a service, under either key mode.

* `Source` : any such function;
* `Register` : services with their entries, held in memory; `Register.source` collects them.
-/

namespace EnvInject

/-- Gives the secrets of a service. -/
abbrev Source := (service : String) → (mode : KeyMode) → Except StoreError SecretSet

/-- The entries of each service, the latest registration of a service first. -/
abbrev Register := List (String × List Secret.Entry)

namespace Register

/-- Registers a service; its entries take the place of earlier ones. -/
def add (register : Register) (service : String) (entries : List Secret.Entry) : Register :=
  (service, entries) :: register

def source (register : Register) : Source := fun service mode =>
  match register.lookup service with
  | none => .error (.notFound service "memory")
  | some entries => Secret.collect service mode entries

end Register

end EnvInject
