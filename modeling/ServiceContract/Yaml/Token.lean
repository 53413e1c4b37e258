import ServiceContract.Text.Hex
import ServiceContract.Yaml.Scalar

/-!
# Tokens of YAML documents

`tokens` cuts a text into tokens.  Lines that are indented deeper than those before open a block,
and lines that are indented less close it.  A scalar may turn out to be a key only when the colon
after it is met, on the same line and not too far away; the tokens for a key, and for the block of
keys that it may open, are then put in front of it.

Of directives only the one for the version says something, namely that it is 1.
-/

namespace ServiceContract.Yaml

/-- The ways in which a text is not YAML. -/
inductive Malformation where
  | unprintable
  | strayCharacter
  | strayKey
  | strayValue
  | strayEntry
  | strayEnd
  | missingColon
  | openQuote
  | badEscape
  /-- An escape gives a number beyond those of code points. -/
  | noCodePoint (number : Nat)
  | badHeader
  | badName
  | badDirective
  deriving DecidableEq, Repr

/-- A token.  A scalar is plain when it has neither quotes nor a header. -/
inductive Token where
  | version
  | directive
  | documentStart
  | documentEnd
  | blockSequenceStart
  | blockMappingStart
  | blockEnd
  | flowSequenceStart
  | flowSequenceEnd
  | flowMappingStart
  | flowMappingEnd
  | blockEntry
  | flowEntry
  | key
  | value
  | anchor (name : Text)
  | alias (name : Text)
  | tag (name : Text)
  | scalar (text : Text) (isPlain : Bool)
  deriving DecidableEq, Repr

/-! ### Characters -/

/-- A line end. -/
def isBreak (c : CodePoint) : Bool :=
  c == '\n' || c == '\r' || c == '\x85' || c == '\u2028' || c == '\u2029'

/-- A space, a tabulator or a line end. -/
def isWhite (c : CodePoint) : Bool := isGap c || isBreak c

/-- A character that a document may hold. -/
def isAllowed (c : CodePoint) : Bool :=
  let n := c.toNat
  n == 9 || n == 10 || n == 13 || (0x20 ≤ n && n ≤ 0x7E) || n == 0x85 ||
    (0xA0 ≤ n && n ≤ 0xD7FF) || (0xE000 ≤ n && n ≤ 0xFFFD) || 0x10000 ≤ n

/-- The text ends, or goes on with white space. -/
def endsWord (t : Text) : Bool := t.head?.all isWhite

/-- The text starts with the marker of a document, three times `c`. -/
def startsMarker (c : CodePoint) (t : Text) : Bool :=
  [c, c, c].isPrefixOf t && endsWord (t.drop 3)

/-- The text starts with a marker of a document. -/
def startsDocument (t : Text) : Bool := startsMarker '-' t || startsMarker '.' t

/-- A character that a plain scalar cannot start with. -/
def isIndicator (c : CodePoint) : Bool :=
  ("-?:,[]\x7b\x7d#&*!|>'\"%@\x60" : Text).contains c

/-! ### The state -/

/-- A place where a key may have started, before the token with the given number. -/
structure KeyStart where
  token : Nat
  offset : Nat
  line : Nat
  column : Nat
  required : Bool

/-- The rest of a text, the place where it starts, the open blocks and flow collections, and the
tokens so far. -/
structure Scanner where
  rest : Text
  offset : Nat := 0
  line : Nat := 0
  column : Nat := 0
  /-- For each open flow collection, and for the block around them, where a key may start. -/
  keys : List (Option KeyStart) := [none]
  indent : Int := -1
  outer : List Int := []
  keyAllowed : Bool := true
  tokens : List Token := []

namespace Scanner

/-- Whether a flow collection is open. -/
def inFlow (s : Scanner) : Bool := 1 < s.keys.length

/-- The state after the next character. -/
def advance (s : Scanner) : Scanner :=
  match s.rest with
  | [] => s
  | c :: rest =>
    if isBreak c then { s with rest, offset := s.offset + 1, line := s.line + 1, column := 0 }
    else if c = '\ufeff' then { s with rest, offset := s.offset + 1 }
    else { s with rest, offset := s.offset + 1, column := s.column + 1 }

/-- The state after the next `n` characters. -/
def skip (s : Scanner) : Nat → Scanner
  | 0 => s
  | n + 1 => s.advance.skip n

/-- The state after the characters of a class. -/
def skipWhile (p : CodePoint → Bool) (s : Scanner) : Scanner :=
  s.skip (s.rest.takeWhile p).length

/-- The state after a line end, with what stands for it: a line feed for the line ends of ASCII
and for the next line, and the line or paragraph separator itself. -/
def lineEnd (s : Scanner) : Text × Scanner :=
  match s.rest with
  | .char '\r' :: .char '\n' :: _ => ("\n", s.skip 2)
  | c :: _ =>
    if isBreak c then
      (if c = '\u2028' ∨ c = '\u2029' then [c] else "\n", s.advance)
    else ([], s)
  | [] => ([], s)

/-- The state with one more token. -/
def push (s : Scanner) (token : Token) : Scanner := { s with tokens := s.tokens ++ [token] }

/-- The state with a token in front of the token with the given number. -/
def pushAt (s : Scanner) (number : Nat) (token : Token) : Scanner :=
  { s with tokens := s.tokens.take number ++ token :: s.tokens.drop number }

/-- Opens a block at a column that is deeper than the current one. -/
def openBlock (s : Scanner) (column : Nat) : Option Scanner :=
  if s.indent < column then some { s with indent := column, outer := s.indent :: s.outer }
  else none

/-- Closes the blocks deeper than a column. -/
def closeBlocks (column : Int) : (outer : List Int) → Scanner → Scanner
  | [], s => s
  | indent :: outer, s =>
    if column < s.indent then closeBlocks column outer { s.push .blockEnd with indent, outer }
    else s

/-- Closes the blocks deeper than a column, outside flow collections. -/
def unwind (s : Scanner) (column : Int) : Scanner :=
  if s.inFlow then s else closeBlocks column s.outer s

/-! ### Keys -/

/-- Gives up the place where a key may have started. -/
def dropKey (s : Scanner) : Except Malformation Scanner :=
  match s.keys with
  | some key :: keys =>
    if key.required then .error .missingColon else .ok { s with keys := none :: keys }
  | _ => .ok s

/-- Notes that a key may start here. -/
def noteKey (s : Scanner) : Except Malformation Scanner :=
  if s.keyAllowed then do
    let s ← s.dropKey
    let key : KeyStart :=
      ⟨s.tokens.length, s.offset, s.line, s.column, !s.inFlow && s.indent == s.column⟩
    return { s with keys := some key :: s.keys.tail }
  else .ok s

/-- Gives up the places of keys that are on an earlier line or too far away. -/
def dropStaleKeys (s : Scanner) : Except Malformation Scanner := do
  let keys ← s.keys.mapM fun key =>
    match key with
    | some k =>
      if k.line ≠ s.line ∨ k.offset + 1024 < s.offset then
        if k.required then .error .missingColon else .ok none
      else .ok (some k)
    | none => .ok none
  return { s with keys }

/-! ### Space and comments -/

/-- The state at the start of the next token, with at most `fuel` lines passed. -/
def skipSpace : (fuel : Nat) → Scanner → Scanner
  | 0, s => s
  | fuel + 1, s =>
    let s := s.skipWhile (· == .char ' ')
    let s := if s.rest.head? = some (.char '#') then s.skipWhile (!isBreak ·) else s
    match s.lineEnd with
    | ([], s) => s
    | (_, s) => skipSpace fuel (if s.inFlow then s else { s with keyAllowed := true })

/-! ### Plain scalars -/

/-- Whether a plain scalar ends before the given text. -/
def endsPlain (inFlow : Bool) : Text → Bool
  | [] => true
  | .char ':' :: rest => endsWord rest || (inFlow && rest.head?.any (",[]\x7b\x7d" : Text).contains)
  | c :: _ => isWhite c || (inFlow && (",?[]\x7b\x7d" : Text).contains c)

/-- The number of characters up to the end of a piece of a plain scalar. -/
def plainLength (inFlow : Bool) : Text → Nat
  | [] => 0
  | c :: rest => if endsPlain inFlow (c :: rest) then 0 else plainLength inFlow rest + 1

/-- Passes spaces and line ends inside a plain scalar, and collects the line ends.  A marker of a
document ends the scalar. -/
def plainBreaks : (fuel : Nat) → Text → Scanner → Option (Text × Scanner) × Scanner
  | 0, breaks, s => (some (breaks, s), s)
  | fuel + 1, breaks, s =>
    let s := s.skipWhile (· == .char ' ')
    match s.lineEnd with
    | ([], s) => (some (breaks, s), s)
    | (ends, s) =>
      if startsDocument s.rest then (none, s) else plainBreaks fuel (breaks ++ ends) s

/-- What stands for the white space after a piece of a plain scalar, if another piece may
follow. -/
def plainSpaces (s : Scanner) : Option Text × Scanner :=
  let spaces := s.rest.takeWhile (· == .char ' ')
  let s := s.skip spaces.length
  match s.lineEnd with
  | ([], s) => (if spaces.isEmpty then none else some spaces, s)
  | (first, s) =>
    let s := { s with keyAllowed := true }
    if startsDocument s.rest then (none, s)
    else match plainBreaks s.rest.length [] s with
      | (none, s) => (none, s)
      | (some (breaks, _), s) =>
        let folded :=
          if first != "\n" then first ++ breaks else if breaks.isEmpty then " " else breaks
        (some folded, s)

/-- The pieces of a plain scalar from `s` on, after the text so far and the white space since. -/
def plainPieces : (fuel : Nat) → (text spaces : Text) → Scanner → Text × Scanner
  | 0, text, _, s => (text, s)
  | fuel + 1, text, spaces, s =>
    let length := if s.rest.head? = some (.char '#') then 0 else plainLength s.inFlow s.rest
    if length = 0 then (text, s)
    else
      let text := text ++ spaces ++ s.rest.take length
      let s := { s.skip length with keyAllowed := false }
      match s.plainSpaces with
      | (none, s) => (text, s)
      | (some spaces, s) =>
        if s.rest.head? = some (.char '#') || (!s.inFlow && s.column < s.indent + 1) then (text, s)
        else plainPieces fuel text spaces s

/-! ### Quoted scalars -/

/-- The characters that a backslash and another character denote. -/
def escapes : List (CodePoint × CodePoint) :=
  [('0', '\x00'), ('a', '\x07'), ('b', '\x08'), ('t', '\t'), ('\t', '\t'), ('n', '\n'),
   ('v', '\x0b'), ('f', '\x0c'), ('r', '\r'), ('e', '\x1b'), (' ', ' '), ('"', '"'),
   ('\\', '\\'), ('/', '/'), ('N', '\x85'), ('_', '\xa0'), ('L', '\u2028'), ('P', '\u2029')]

/-- The number of hexadecimal digits after a backslash and a letter. -/
def escapeLengths : List (CodePoint × Nat) := [('x', 2), ('u', 4), ('U', 8)]

/-- The line ends inside quotes, without the spaces around them. -/
def quotedBreaks : (fuel : Nat) → Text → Scanner → Except Malformation (Text × Scanner)
  | 0, breaks, s => .ok (breaks, s)
  | fuel + 1, breaks, s =>
    if startsDocument s.rest then .error .openQuote
    else
      let s := s.skipWhile isGap
      match s.lineEnd with
      | ([], s) => .ok (breaks, s)
      | (ends, s) => quotedBreaks fuel (breaks ++ ends) s

/-- What stands for the white space inside quotes. -/
def quotedSpaces (s : Scanner) : Except Malformation (Text × Scanner) :=
  let spaces := s.rest.takeWhile isGap
  let s := s.skip spaces.length
  if s.rest.isEmpty then .error .openQuote
  else match s.lineEnd with
    | ([], s) => .ok (spaces, s)
    | (first, s) => do
      let (breaks, s) ← quotedBreaks (s.rest.length + 1) [] s
      return (if first != "\n" then first ++ breaks
        else if breaks.isEmpty then " " else breaks, s)

/-- What a backslash inside double quotes starts; `s` is the state after the backslash. -/
def escape (s : Scanner) : Except Malformation (Text × Scanner) :=
  match s.rest with
  | [] => .error .badEscape
  | c :: rest =>
    match escapes.lookup c, escapeLengths.lookup c with
    | some e, _ => .ok ([e], s.advance)
    | none, some length =>
      let digits := rest.take length
      match Text.hexNumber? digits with
      | some n =>
        if digits.length < length then .error .badEscape
        else if n < 0x110000 then .ok ([CodePoint.ofNat n], s.skip (length + 1))
        else .error (.noCodePoint n)
      | none => .error .badEscape
    | none, none =>
      if isBreak c then
        let (_, s) := s.lineEnd
        quotedBreaks (s.rest.length + 1) [] s
      else .error .badEscape

/-- The text up to the closing quote, and the state after the quote. -/
def quotedText (quote : CodePoint) : (fuel : Nat) → Text → Scanner →
    Except Malformation (Text × Scanner)
  | 0, _, _ => .error .openQuote
  | fuel + 1, text, s =>
    match s.rest with
    | [] => .error .openQuote
    | c :: rest =>
      if c = quote then
        if quote = '\'' ∧ rest.head? = some quote then
          quotedText quote fuel (text ++ [c]) (s.skip 2)
        else .ok (text, s.advance)
      else if c = '\\' ∧ quote = '"' then do
        let (piece, s) ← s.advance.escape
        quotedText quote fuel (text ++ piece) s
      else if isWhite c then do
        let (piece, s) ← s.quotedSpaces
        quotedText quote fuel (text ++ piece) s
      else quotedText quote fuel (text ++ [c]) s.advance

/-! ### Block scalars -/

/-- What happens to the line ends at the end of a block scalar. -/
inductive Chomping where
  | clip
  | strip
  | keep
  deriving DecidableEq, Repr

/-- The sign of a chomping. -/
def chomping? : CodePoint → Option Chomping
  | .char '+' => some .keep
  | .char '-' => some .strip
  | _ => none

/-- The chomping and the indentation that the header of a block scalar gives, and the rest of the
line. -/
def blockHeader (t : Text) : Except Malformation (Chomping × Option Nat × Text) :=
  let digit? (c : CodePoint) := if c.isDigit ∧ c ≠ '0' then some (c.toNat - 48) else none
  let parsed : Except Malformation (Chomping × Option Nat × Text) :=
    match t with
    | [] => .ok (.clip, none, [])
    | a :: rest =>
      match chomping? a, digit? a with
      | some chomping, _ =>
        match rest with
        | b :: more =>
          if b = '0' then .error .badHeader
          else match digit? b with
            | some n => .ok (chomping, some n, more)
            | none => .ok (chomping, none, rest)
        | [] => .ok (chomping, none, rest)
      | none, some n =>
        match rest with
        | b :: more =>
          match chomping? b with
          | some chomping => .ok (chomping, some n, more)
          | none => .ok (.clip, some n, rest)
        | [] => .ok (.clip, some n, rest)
      | none, none => if a = '0' then .error .badHeader else .ok (.clip, none, t)
  parsed.bind fun (chomping, indentation, rest) =>
    if endsWord rest then .ok (chomping, indentation, rest) else .error .badHeader

/-- Passes empty lines, and on each line at most as many spaces as lead to the column `indent`;
without one, all spaces, keeping the greatest column that was reached. -/
def blockBreaks (indent : Option Nat) : (fuel : Nat) → Text → Nat → Scanner →
    Text × Nat × Scanner
  | 0, breaks, deepest, s => (breaks, deepest, s)
  | fuel + 1, breaks, deepest, s =>
    let spaces := (s.rest.takeWhile (· == .char ' ')).length
    let s := s.skip (match indent with
      | some column => min spaces (column - s.column)
      | none => spaces)
    let deepest := max deepest s.column
    match s.lineEnd with
    | ([], s) => (breaks, deepest, s)
    | (ends, s) => blockBreaks indent fuel (breaks ++ ends) deepest s

/-- The lines of a block scalar at the column `indent`, after the text so far and the line ends
since; answers also the last line end and the line ends after it. -/
def blockLines (folded : Bool) (indent : Nat) : (fuel : Nat) → (text last breaks : Text) →
    Scanner → (Text × Text × Text) × Scanner
  | 0, text, last, breaks, s => ((text, last, breaks), s)
  | fuel + 1, text, last, breaks, s =>
    if s.column ≠ indent ∨ s.rest.isEmpty then ((text, last, breaks), s)
    else
      let startsText := !(s.rest.head?.any isGap)
      let line := s.rest.takeWhile (!isBreak ·)
      let text := text ++ breaks ++ line
      let (last, s) := (s.skip line.length).lineEnd
      let (breaks, _, s) := blockBreaks (some indent) (s.rest.length + 1) [] 0 s
      if s.column = indent ∧ ¬ s.rest.isEmpty then
        let joins := folded && last == "\n" && startsText && !(s.rest.head?.any isGap)
        let text := if joins then (if breaks.isEmpty then text ++ " " else text) else text ++ last
        blockLines folded indent fuel text last breaks s
      else ((text, last, breaks), s)

/-- Reads a block scalar from its sign on. -/
def blockScalar (folded : Bool) (s : Scanner) : Except Malformation Scanner := do
  let s ← ({ s with keyAllowed := true } : Scanner).dropKey
  let s := s.advance
  let (chomping, indentation, rest) ← blockHeader s.rest
  let s := (s.skip (s.rest.length - rest.length)).skipWhile (· == .char ' ')
  let s := if s.rest.head? = some (.char '#') then s.skipWhile (!isBreak ·) else s
  if !(s.rest.head?.all isBreak) then .error .badHeader
  else
    let (_, s) := s.lineEnd
    let least := max (s.indent + 1).toNat 1
    let fuel := s.rest.length + 1
    let (indent, breaks, s) := match indentation with
      | some n =>
        let indent := least + n - 1
        let (breaks, _, s) := blockBreaks (some indent) fuel [] 0 s
        (indent, breaks, s)
      | none =>
        let (breaks, deepest, s) := blockBreaks none fuel [] 0 s
        (max least deepest, breaks, s)
    let ((text, last, breaks), s) := blockLines folded indent fuel [] [] breaks s
    let text := if chomping = .strip then text else text ++ last
    let text := if chomping = .keep then text ++ breaks else text
    return s.push (.scalar text false)

/-! ### Tokens -/

/-- Closes all blocks and adds the marker of a document. -/
def documentMarker (token : Token) (s : Scanner) : Except Malformation Scanner := do
  let s ← (s.unwind (-1)).dropKey
  return { s.skip 3 with keyAllowed := false }.push token

/-- A line ends after a number, but for spaces and a comment. -/
def endsNumber (t : Text) : Bool :=
  match t with
  | [] => true
  | c :: rest => c == ' ' && (rest.dropWhile (· == .char ' ')).head?.all (· == .char '#')

/-- A version that starts with 1, on a line. -/
def isVersion (line : Text) : Bool :=
  let line := line.dropWhile (· == .char ' ')
  let major := line.takeWhile CodePoint.isDigit
  match line.drop major.length with
  | .char '.' :: minor =>
    major.getLast? == some (.char '1') && major.dropLast.all (· == .char '0') &&
      minor.head?.any CodePoint.isDigit && endsNumber (minor.dropWhile CodePoint.isDigit)
  | _ => false

/-- Reads a directive. -/
def directive (s : Scanner) : Except Malformation Scanner := do
  let s ← (s.unwind (-1)).dropKey
  let line := s.rest.tail.takeWhile (!isBreak ·)
  let name := line.takeWhile fun c : CodePoint => c.isAlphanum || c == '-' || c == '_'
  let after := line.drop name.length
  let read := { s.skip (line.length + 1) with keyAllowed := false }
  if name = "YAML" then
    if isVersion after then return read.push .version else .error .badDirective
  else if !name.isEmpty && after.head?.all (· == .char ' ') then return read.push .directive
  else .error .badDirective

/-- Opens a flow collection. -/
def openFlow (token : Token) (s : Scanner) : Except Malformation Scanner := do
  let s ← s.noteKey
  return { s.advance with keys := none :: s.keys, keyAllowed := true }.push token

/-- Closes a flow collection. -/
def closeFlow (token : Token) (s : Scanner) : Except Malformation Scanner := do
  let s ← s.dropKey
  if s.inFlow then return { s.advance with keys := s.keys.tail, keyAllowed := false }.push token
  else .error .strayEnd

/-- Reads the comma between the entries of a flow collection. -/
def flowEntry (s : Scanner) : Except Malformation Scanner := do
  let s ← ({ s with keyAllowed := true } : Scanner).dropKey
  return s.advance.push .flowEntry

/-- Opens a block here, if it is deeper than the current one. -/
def pushBlock (token : Token) (s : Scanner) : Scanner :=
  match s.openBlock s.column with
  | some s => s.push token
  | none => s

/-- Reads the hyphen before an entry of a sequence. -/
def blockEntry (s : Scanner) : Except Malformation Scanner :=
  if !s.inFlow && !s.keyAllowed then .error .strayEntry
  else do
    let s := if s.inFlow then s else s.pushBlock .blockSequenceStart
    let s ← ({ s with keyAllowed := true } : Scanner).dropKey
    return s.advance.push .blockEntry

/-- Reads the question mark before a key. -/
def explicitKey (s : Scanner) : Except Malformation Scanner :=
  if !s.inFlow && !s.keyAllowed then .error .strayKey
  else do
    let s := if s.inFlow then s else s.pushBlock .blockMappingStart
    let s ← ({ s with keyAllowed := !s.inFlow } : Scanner).dropKey
    return s.advance.push .key

/-- Reads the colon before a value. -/
def value (s : Scanner) : Except Malformation Scanner :=
  match s.keys with
  | some key :: keys =>
    let s := { s with keys := none :: keys, keyAllowed := false }.pushAt key.token .key
    let s := if s.inFlow then s else
      match s.openBlock key.column with
      | some s => s.pushAt key.token .blockMappingStart
      | none => s
    .ok (s.advance.push .value)
  | _ =>
    if !s.inFlow && !s.keyAllowed then .error .strayValue
    else do
      let s := if s.inFlow then s else s.pushBlock .blockMappingStart
      let s ← ({ s with keyAllowed := !s.inFlow } : Scanner).dropKey
      return s.advance.push .value

/-- Reads the name of an anchor or an alias after its sign. -/
def reference (token : Text → Token) (s : Scanner) : Except Malformation Scanner := do
  let s ← s.noteKey
  let s := { s.advance with keyAllowed := false }
  let name := s.rest.takeWhile fun c : CodePoint => c.isAlphanum || c == '-' || c == '_'
  let s := s.skip name.length
  if name.isEmpty || !(endsWord s.rest || s.rest.head?.any ("?:,]\x7d%@\x60" : Text).contains) then
    .error .badName
  else return s.push (token name)

/-- Reads a tag. -/
def tag (s : Scanner) : Except Malformation Scanner := do
  let s ← s.noteKey
  let name := s.rest.takeWhile (!isWhite ·)
  return { s.skip name.length with keyAllowed := false }.push (.tag name)

/-- Reads a scalar in quotes. -/
def quotedScalar (quote : CodePoint) (s : Scanner) : Except Malformation Scanner := do
  let s ← s.noteKey
  let s := { s.advance with keyAllowed := false }
  let (text, s) ← quotedText quote (s.rest.length + 1) [] s
  return s.push (.scalar text false)

/-- Reads a plain scalar. -/
def plainScalar (s : Scanner) : Except Malformation Scanner := do
  let s ← s.noteKey
  let s := { s with keyAllowed := false }
  let (text, s) := plainPieces (s.rest.length + 1) [] [] s
  return s.push (.scalar text true)

/-- Reads the token that starts with `c`, the first character of `c :: rest`. -/
def token (c : CodePoint) (rest : Text) (s : Scanner) : Except Malformation Scanner :=
  let here := c :: rest
  if s.column = 0 ∧ c = '%' then s.directive
  else if s.column = 0 ∧ startsMarker '-' here then s.documentMarker .documentStart
  else if s.column = 0 ∧ startsMarker '.' here then s.documentMarker .documentEnd
  else if c = '[' then s.openFlow .flowSequenceStart
  else if c = '\x7b' then s.openFlow .flowMappingStart
  else if c = ']' then s.closeFlow .flowSequenceEnd
  else if c = '\x7d' then s.closeFlow .flowMappingEnd
  else if c = ',' then s.flowEntry
  else if c = '-' ∧ endsWord rest then s.blockEntry
  else if c = '?' ∧ (s.inFlow ∨ endsWord rest) then s.explicitKey
  else if c = ':' ∧ (s.inFlow ∨ endsWord rest) then s.value
  else if c = '*' then s.reference .alias
  else if c = '&' then s.reference .anchor
  else if c = '!' then s.tag
  else if c = '|' ∧ !s.inFlow then s.blockScalar false
  else if c = '>' ∧ !s.inFlow then s.blockScalar true
  else if c = '\'' ∨ c = '"' then s.quotedScalar c
  else if (!isWhite c && !isIndicator c) ||
      (!endsWord rest && (c == '-' || (!s.inFlow && (c == '?' || c == ':')))) then s.plainScalar
  else .error .strayCharacter

/-- All tokens from a state on, with at most `fuel` tokens read. -/
def run : (fuel : Nat) → Scanner → Except Malformation (List Token)
  | 0, _ => .error .strayCharacter
  | fuel + 1, s => do
    let s ← (s.skipSpace (s.rest.length + 1)).dropStaleKeys
    match s.rest with
    | [] => do
      let s ← (s.unwind (-1)).dropKey
      return s.tokens
    | c :: rest => do
      let s ← (s.unwind s.column).token c rest
      run fuel s

end Scanner

/-- The tokens of a text. -/
def tokens (text : Text) : Except Malformation (List Token) :=
  if !text.all isAllowed then .error .unprintable
  else
    let scanner : Scanner := { rest := text }
    let scanner := if text.head? = some (.char '\ufeff') then scanner.advance else scanner
    scanner.run (text.length + 1)

end ServiceContract.Yaml
