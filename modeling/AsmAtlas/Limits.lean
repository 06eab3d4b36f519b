/-!
# Limits

Globs are read, and outlines and folders walked, by calls within calls, and these end with an error
where the stack is full. How deep they may be nested depends on what is on the stack already, so the
limits belong to a workspace and can be any numbers.
-/

namespace AsmAtlas

/-- How deep calls may be nested. The defaults are for a stack of 1000 calls on which there is
    little else. -/
structure Limits where
  /-- The nesting of braces in a glob. -/
  braces : Nat := 328
  /-- The calls of a walk through an outline. -/
  outline : Nat := 990
  /-- The calls of a walk through folders. -/
  folders : Nat := 990

end AsmAtlas
