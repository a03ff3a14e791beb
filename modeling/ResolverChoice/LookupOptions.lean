/-
What a caller may ask of a single lookup.
-/

namespace ResolverChoice

structure LookupOptions where
  /-- Ask the built-in resolver, whatever the machine prefers. -/
  builtin : Bool := false
  deriving DecidableEq

/-- A caller without options asks for nothing. -/
def asksForBuiltin (options : Option LookupOptions) : Bool :=
  options.any LookupOptions.builtin

end ResolverChoice
