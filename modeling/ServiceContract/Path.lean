import ServiceContract.Text.Blank
import ServiceContract.Text.Word

/-!
# Operation paths and their placeholders

A path holds placeholders `:name` and `{name}`, where a name is a run of word characters.
`scan` reads a path from left to right and remembers which placeholder is open: after a colon one
that ends where the run of word characters ends, after an opening brace one that needs the closing
brace right after the run.
-/

namespace ServiceContract.Path

/-- The placeholder that is open, with its name so far. -/
inductive Open where
  | none
  | colon (name : Text)
  | brace (name : Text)
  deriving DecidableEq, Repr

/-- The placeholder that a character opens. -/
def Open.after (c : CodePoint) : Open :=
  if c = ':' then .colon [] else if c = '\x7b' then .brace [] else .none

/-- A name, unless it is empty. -/
def named (name : Text) : List Text :=
  if name.isEmpty then [] else [name]

/-- The names of the placeholders in what is left of a path. -/
def scan : Open → Text → List Text
  | .colon name, [] => named name
  | _, [] => []
  | .none, c :: rest => scan (Open.after c) rest
  | .colon name, c :: rest =>
    if c.isWord then scan (.colon (name ++ [c])) rest
    else named name ++ scan (Open.after c) rest
  | .brace name, c :: rest =>
    if c.isWord then scan (.brace (name ++ [c])) rest
    else if c = '\x7d' then named name ++ scan .none rest
    else scan (Open.after c) rest

/-- The names of the placeholders of a path, each once, in the order of their first places. -/
def placeholders (path : Text) : List Text :=
  (scan .none path).eraseDups

/-- The path of an operation of a resource: its own path, if it has one, after the resource's path
without the slashes at its end, with one slash between the two. -/
def join (resource : Text) (operation : Option Text) : Text :=
  match operation with
  | none | some [] => resource
  | some (c :: rest) =>
    Text.dropTrailing (· == .char '/') resource ++
      if c = '/' then c :: rest else '/' :: c :: rest

example : placeholders "/users/:id/\x7bname\x7d/:id" = (["id", "name"] : List Text) := by decide

example : placeholders "\x7bab:cd\x7d:/:é" = (["cd", "é"] : List Text) := by decide +kernel

example : join "/a//" (some "b") = "/a/b" ∧ join "/a/" (some "") = "/a/" := by decide

end ServiceContract.Path
