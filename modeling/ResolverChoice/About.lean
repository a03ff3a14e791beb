/-
What the library says about itself, and the names it offers.
-/

namespace ResolverChoice.About

def version : String := "1.0.0"

def terms : String := "MIT"

/-- The names that users may rely on, in alphabetical order. -/
def publicNames : List String :=
  ["LookupOrder", "OSFamily", "Resolver", "SystemConfig", "add_stderr_logger",
    "build_system_config", "can_use_native", "exceptions", "get_system_config",
    "get_system_nss", "host_lookup_order", "lookup_order"]

end ResolverChoice.About
