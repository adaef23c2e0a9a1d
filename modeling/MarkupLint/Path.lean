import MarkupLint.Text.Basic

/-!
Names of files. A path is a root, which may be missing, and names; single periods and empty names are
dropped, and double periods are kept.
-/

namespace MarkupLint

/-- A path. -/
structure Path where
  /-- The slashes that it starts with: none, one or two. -/
  root : Text
  /-- The names, outermost first. -/
  names : List Text
deriving DecidableEq, Repr

namespace Path

/-- The longest path, in bytes. -/
def maxLength : Nat := 4095

/-- The longest name in a path, in bytes. -/
def maxName : Nat := 255

/-- The root of a written path; exactly two slashes differ from any other number. -/
def rootOf (text : Text) : Text :=
  match (text.takeWhile (· = '/')).length with
  | 0 => []
  | 2 => ['/', '/']
  | _ => ['/']

/-- The path that a text writes. -/
def ofText (text : Text) : Path :=
  ⟨rootOf text, (Text.splitOn (· = '/') text).filter fun name => !name.isEmpty && name != ['.']⟩

/-- How a path is written; a path without names is a period. -/
def render (p : Path) : Text :=
  if p.root.isEmpty ∧ p.names.isEmpty then ['.'] else p.root ++ Text.join ['/'] p.names

/-- The path without its last name. -/
def parent (p : Path) : Path := { p with names := p.names.dropLast }

/-- A path seen from another one. -/
def join (base p : Path) : Path :=
  if p.root.isEmpty then { base with names := base.names ++ p.names } else p

/-- The last name, empty when there is none. -/
def name (p : Path) : Text := p.names.getLast?.getD []

/-- The extension of the last name, from its last period on. A period in the first or the last place
starts none. -/
def extension (p : Path) : Text :=
  let after := (p.name.reverse.takeWhile (· ≠ '.')).reverse
  let before := p.name.length - after.length
  if after.isEmpty ∨ before ≤ 1 then [] else '.' :: after

end Path

end MarkupLint
