import Playbook.Pattern
import Playbook.Pattern.Search
import Playbook.Pattern.Syntax

/-!
# Playbook.Pattern.Builtin

An engine of our own, for running patterns without one from outside. It reads the usual syntax
of regular expressions, makes a machine for the expression and runs that over the text.

It is smaller than the engines that it stands in for. It refuses some texts that they take:

* classes of characters by a property of theirs, such as `\p` and `\P` with a name;
* the flag `x`, under which white space and comments in a pattern mean nothing, the flag `R` for
  line ends of two characters, and switching the flag `u` off;
* patterns of some size: the weight of an expression and the height of its syntax are rough
  measures, not the sizes in memory at which another engine gives up.

And it gives no reason when it refuses one.
-/

namespace Playbook

namespace Pattern.Program

/-- The machine for a whole pattern, whose match is the group with the number zero. -/
def ofWhole (e : Expr) : Program := ofExpr (.group 0 none e)

/-- The machine for the text of a pattern. -/
def ofText (text : Text) : Except Text Program :=
  match Expr.ofText? text with
  | some e => .ok (ofWhole e)
  | none => .error []

/-- The names of the groups, from the whole pattern on. -/
def names (p : Program) : List (Option Text) := none :: p.groups

/-- The groups of a match, from the whole pattern on, with what each has matched. -/
def groupsOf (p : Program) (marks : Marks) (text : Text) : List (Option Text × Option Text) :=
  p.names.mapIdx fun i name => (name, groupText? marks text i)

end Pattern.Program

open Pattern in
/-- The engine. -/
def Engine.builtin : Engine where
  Regex := Program
  Found := List (Option Text × Option Text)
  new := Program.ofText
  escape := Escape.escape
  names := Program.names
  find? p text := (p.search text).map fun marks => p.groupsOf marks text
  groups found := found.map (·.2)
  named? found name := (found.find? fun group => group.1 == some name).bind (·.2)

end Playbook
