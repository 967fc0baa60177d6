import Playbook.Text.Basic

/-!
# Playbook.Row

Table rows such as `| a | b |`, the lines that carry the tables of steps and the
examples of outlines. A bar separates cells, the closing bar may be left out, and
cells are trimmed; empty cells count.
-/

namespace Playbook

/-- A row of a table: its cells in order. -/
abbrev Row := List Text

namespace Row

/-- The bar that separates the cells of a row. -/
def bar : Char := '|'

/-- The text without one leading bar. -/
def withoutOpening : Text → Text
  | [] => []
  | c :: rest => if c = bar then rest else c :: rest

/-- The text without one trailing bar. -/
def withoutClosing (text : Text) : Text :=
  if text.getLast? = some bar then text.dropLast else text

/-- The cells of a row, each trimmed. -/
def ofLine (line : Text) : Row :=
  ((withoutClosing (withoutOpening (Text.trim line))).splitOn bar).map Text.trim

end Row

end Playbook
