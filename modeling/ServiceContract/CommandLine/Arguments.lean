import ServiceContract.Text.Quoted
import ServiceContract.Text.Similarity

/-!
# Arguments of a command line

A `Grammar` lists the switches of a command.  `Grammar.split` goes over the words of a command
line and separates the switches, with their values, from the arguments.  A switch is written as
two hyphens and a name, or as one hyphen and a letter.  A value follows its switch as the next
word or after an equals sign.  The word `--` ends the switches; a hyphen alone is an argument.
The complaint about an unknown name mentions the known ones that are similar.
-/

namespace ServiceContract.CommandLine

/-- A switch, known by what it sets.  One that is also written as a letter takes no value. -/
structure Switch (κ : Type) where
  key : κ
  name : Text
  letter : Option CodePoint := none
  takesValue : Bool := false

/-- The switches of a command, and whether they may follow its arguments. -/
structure Grammar (κ : Type) where
  switches : List (Switch κ)
  mixed : Bool

/-- Why a command line cannot be split. -/
inductive SplitFault where
  /-- A name or a letter that is no switch's, and the known names that are similar to it. -/
  | unknownSwitch (name : Text) (similar : List Text)
  | missingValue (name : Text)
  | unexpectedValue (name : Text)
  deriving DecidableEq, Repr

/-- The question whether one of some similar names was meant. -/
def suggestion (similar : List Text) : Text :=
  match similar with
  | [] => ""
  | [name] => " Did you mean " ++ name.quoted ++ "?"
  | names => " (Did you mean one of: " ++ Text.join ", " (names.map Text.quoted) ++ "?)"

/-- The wording of a fault. -/
def SplitFault.message : SplitFault → Text
  | unknownSwitch name similar => "No such option " ++ name.quoted ++ "." ++ suggestion similar
  | missingValue name => "Option " ++ name.quoted ++ " requires an argument."
  | unexpectedValue name => "Option " ++ name.quoted ++ " does not take a value."

/-- The switches of a command line with their values, and the arguments, in order. -/
structure Split (κ : Type) where
  switches : List (κ × Option Text)
  arguments : List Text
  deriving DecidableEq, Repr

namespace Split

variable {κ : Type}

/-- Puts switches in front. -/
def addSwitches (switches : List (κ × Option Text)) (s : Split κ) : Split κ :=
  { s with switches := switches ++ s.switches }

/-- Puts an argument in front. -/
def addArgument (word : Text) (s : Split κ) : Split κ :=
  { s with arguments := word :: s.arguments }

variable [DecidableEq κ]

/-- Whether a switch is set. -/
def sets (s : Split κ) (key : κ) : Bool := s.switches.any fun (k, _) => k == key

/-- The values of a switch, in order. -/
def values (s : Split κ) (key : κ) : List Text :=
  s.switches.filterMap fun (k, value) => if k == key then value else none

/-- The last value of a switch. -/
def value? (s : Split κ) (key : κ) : Option Text := (s.values key).getLast?

end Split

/-- Whether a word stands for switches. -/
def isSwitch : Text → Bool
  | .char '-' :: _ :: _ => true
  | _ => false

/-- The name in a word, and the value after the first equals sign. -/
def nameAndValue (word : Text) : Text × Option Text :=
  match word.dropWhile (· != .char '=') with
  | [] => (word, none)
  | _ :: value => (word.takeWhile (· != .char '='), some value)

namespace Grammar

variable {κ : Type}

/-- The switches that letters stand for. -/
def letters (g : Grammar κ) : Text → Except SplitFault (List (κ × Option Text))
  | [] => .ok []
  | c :: rest =>
    match g.switches.find? (·.letter == some c) with
    | none => .error (.unknownSwitch ['-', c] [])
    | some known => (letters g rest).map ((known.key, none) :: ·)

/-- The fault of a name that is no switch's. -/
def unknownName (g : Grammar κ) (name : Text) : SplitFault :=
  .unknownSwitch name (Text.similar (g.switches.map (·.name)) name)

/-- Splits the words of a command line. -/
def split (g : Grammar κ) : List Text → Except SplitFault (Split κ)
  | [] => .ok ⟨[], []⟩
  | word :: rest =>
    if word == "--" then .ok ⟨[], rest⟩
    else if !isSwitch word then
      if g.mixed then (split g rest).map (·.addArgument word) else .ok ⟨[], word :: rest⟩
    else
      let (name, value) := nameAndValue word
      match g.switches.find? (·.name == name) with
      | some known =>
        match known.takesValue, value with
        | true, some value => (split g rest).map (·.addSwitches [(known.key, some value)])
        | true, none =>
          match rest with
          | [] => .error (.missingValue name)
          | value :: rest => (split g rest).map (·.addSwitches [(known.key, some value)])
        | false, some _ => .error (.unexpectedValue name)
        | false, none => (split g rest).map (·.addSwitches [(known.key, none)])
      | none =>
        match word with
        | .char '-' :: .char '-' :: _ => .error (g.unknownName name)
        | letters => do
          let switches ← g.letters letters.tail
          return (← split g rest).addSwitches switches

end Grammar

example : (Grammar.split ⟨[⟨0, "--all", some 'a', false⟩, ⟨1, "--in", none, true⟩], true⟩
      ["x", "-aa", "--in=y", "--in", "z", "--", "--all"]) =
    .ok ⟨[(0, none), (0, none), (1, some "y"), (1, some "z")], ["x", "--all"]⟩ := by rfl

end ServiceContract.CommandLine
