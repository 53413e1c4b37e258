import ServiceContract.Text.Blank

/-!
# Methods of operations

A method is recognised by its name in any mix of capital and small letters, with blanks around
it.  `capitals` writes a character in capital letters as far as these are ASCII letters; other
characters stay, since no method name holds them.
-/

namespace ServiceContract

/-- The method of an operation. -/
inductive Method where
  | get
  | post
  | put
  | patch
  | delete
  | head
  | connect
  | options
  | trace
  deriving DecidableEq, Repr

namespace Method

/-- The name of a method. -/
def name : Method → Text
  | get => "GET"
  | post => "POST"
  | put => "PUT"
  | patch => "PATCH"
  | delete => "DELETE"
  | head => "HEAD"
  | connect => "CONNECT"
  | options => "OPTIONS"
  | trace => "TRACE"

/-- All methods, in the order in which messages list them. -/
def all : List Method :=
  [get, post, put, patch, delete, head, connect, options, trace]

/-- The characters beyond ASCII whose capital letters are ASCII letters. -/
def asciiCapitals : List (CodePoint × Text) :=
  [('ß', "SS"), ('ı', "I"), ('ſ', "S"), ('ﬀ', "FF"), ('ﬁ', "FI"), ('ﬂ', "FL"), ('ﬃ', "FFI"),
   ('ﬄ', "FFL"), ('ﬅ', "ST"), ('ﬆ', "ST")]

/-- The capital letters of a code point, if they are ASCII letters, and the code point itself
otherwise. -/
def capitals (c : CodePoint) : Text :=
  if c.toNat < 128 then [c.toUpper] else (asciiCapitals.lookup c).getD [c]

/-- The name that a text spells, without blanks around it and in capital letters. -/
def canonical (text : Text) : Text :=
  text.trim.flatMap capitals

/-- The method that a text names. -/
def ofText? (text : Text) : Option Method :=
  all.find? fun m => m.name == canonical text

theorem mem_all (m : Method) : m ∈ all := by
  cases m <;> decide

example : ofText? " gEt\n" = some get ∧ ofText? "poﬆ" = some post ∧ ofText? "g et" = none := by
  decide

end Method

end ServiceContract
