/-!
# Directives to the shell

With the candidates a shell is told what to do with them, by flags that may be combined.

## Main definitions

* `Directive`, `Directive.union`, `Directive.contains`.
* `Directive.bits`: the number that tells the flags to the shell.
-/

namespace RolloutTree

/-- What a shell is to do with candidates. -/
structure Directive where
  /-- The candidates are of no use. -/
  isError : Bool := false
  /-- No space follows a completed argument. -/
  noSpace : Bool := false
  /-- File names are no candidates. -/
  noFiles : Bool := false
  deriving DecidableEq, Repr

namespace Directive

/-- The flags of both directives. -/
def union (a b : Directive) : Directive :=
  ⟨a.isError || b.isError, a.noSpace || b.noSpace, a.noFiles || b.noFiles⟩

/-- Whether the directive has all flags of the other. -/
def contains (a b : Directive) : Bool :=
  (a.isError || !b.isError) && (a.noSpace || !b.noSpace) && (a.noFiles || !b.noFiles)

/-- The number that tells the flags to the shell: one bit for each. -/
def bits (d : Directive) : Nat := d.isError.toNat + 2 * d.noSpace.toNat + 4 * d.noFiles.toNat

end Directive

end RolloutTree
