import UnitCalc.Calculator

/-!
# The console

The calculator on the command line. Given an expression, it prints the value and stops; given
none, it prompts for expressions line by line. This module decides what is printed where, and
with which status the program ends; reading and printing are left to the program itself.

The log is left out. At the level `debug` the program writes on the error output what it does, in
addition to what is printed here; at the other levels it logs nothing. So the level is checked, and
has no further effect.
-/

namespace UnitCalc.Console

/-! ## Arguments -/

/-- What the arguments ask for. -/
inductive Request where
  /-- The value of one expression. -/
  | evaluate (display : Display) (input : String)
  /-- A prompt for expressions. -/
  | prompt (display : Display)
  /-- A text about the program. -/
  | help
  /-- Nothing, for an option is wrong. -/
  | misuse
deriving Repr, DecidableEq

/-- The arguments read so far; the words of the expression are in reverse. -/
structure Arguments where
  words : List String
  si : Bool
  level : Option String
  help : Bool

/-- The levels of logging, in lower case. -/
def levels : List String := ["debug", "info", "warning", "error"]

/-- The option that sets the level of logging, with its value in the same argument. -/
def levelOption : String := "--log-level="

/-- The options without a value, which refuse one. -/
def flags : List String := ["--si=", "--help=", "--version="]

/-- The text behind the beginning of another. -/
def textAfter? (start s : String) : Option String :=
  if start.toList.isPrefixOf s.toList then
    some (String.ofList (s.toList.drop start.length))
  else none

/-- Reads the arguments from left to right. Everything behind `--` and every argument that is
no option is a word of the expression, even if it begins with a dash. -/
def Arguments.read (a : Arguments) : List String → Option Arguments
  | [] => some a
  | "--" :: rest => some { a with words := rest.reverse ++ a.words }
  | "--si" :: rest => read { a with si := true } rest
  | "--help" :: rest => read { a with help := true } rest
  | "--version" :: rest => read { a with help := true } rest
  | ["--log-level"] => none
  | "--log-level" :: level :: rest => read { a with level := some level } rest
  | word :: rest =>
    match textAfter? levelOption word with
    | some level => read { a with level := some level } rest
    | none =>
      if flags.any fun flag => (textAfter? flag word).isSome then none
      else read { a with words := word :: a.words } rest

/-- Whether a level of logging exists; case does not matter. -/
def validLevel (level : Option String) : Bool :=
  match level with
  | some level => levels.contains (String.ofList (level.toList.map Char.toLower))
  | none => true

/-- What the arguments of the program ask for. The words of an expression are joined by
blanks. -/
def Request.ofArguments (arguments : List String) : Request :=
  match Arguments.read ⟨[], false, none, false⟩ arguments with
  | none => .misuse
  | some a =>
    let display := if a.si then Display.si else Display.native
    if a.help then .help
    else if !validLevel a.level then .misuse
    else if a.words.isEmpty then .prompt display
    else .evaluate display (" ".intercalate a.words.reverse)

/-! ## Output -/

/-- What is printed on the two streams. -/
structure Output where
  stdout : String
  stderr : String
deriving Repr, DecidableEq

namespace Output

/-- Nothing. -/
def empty : Output := ⟨"", ""⟩

/-- One output after another. -/
def append (a b : Output) : Output := ⟨a.stdout ++ b.stdout, a.stderr ++ b.stderr⟩

@[simp] theorem empty_append (a : Output) : empty.append a = a := by
  simp [append, empty]

theorem append_assoc (a b c : Output) : (a.append b).append c = a.append (b.append c) := by
  simp [append, String.append_assoc]

/-- A text on the standard output. -/
def out (s : String) : Output := ⟨s, ""⟩

/-- A text on the error output. -/
def err (s : String) : Output := ⟨"", s⟩

end Output

/-- What a program has printed, and its exit status. -/
structure Result where
  status : Nat
  output : Output
deriving Repr, DecidableEq

variable {K : Type} [Scalar K]

/-! ## Single expressions -/

/-- The value of an expression, or why it has none. A breakdown is not reported. -/
def answer (r : Registry K) (display : Display) (input : String) : Except Breakdown Result :=
  match calculateText r display input with
  | .ok text => .ok ⟨0, .out (text ++ "\n")⟩
  | .error (.breakdown cause) => .error cause
  | .error fault => .ok ⟨1, .err ("Error: " ++ fault.message ++ "\n")⟩

/-! ## The prompt -/

/-- The prompt for an expression. -/
def prompt : String := ">>> "

/-- The lines that end the program. -/
def farewells : List String := ["exit", "quit"]

/-- What a line at the prompt asks for, once the blanks around it are gone. -/
inductive Line where
  | blank
  | farewell
  | expression (input : String)
deriving Repr, DecidableEq

/-- Reads a line. -/
def Line.ofText (line : String) : Line :=
  let input := String.ofList (Text.trim line.toList)
  if input.isEmpty then .blank
  else if farewells.contains input then .farewell
  else .expression input

/-- What is printed for an expression at the prompt. -/
def reply (r : Registry K) (display : Display) (input : String) : Except Breakdown Output :=
  match calculateText r display input with
  | .ok text => .ok (.out (text ++ "\n"))
  | .error (.breakdown cause) => .error cause
  | .error fault => .ok (.err ("error: " ++ fault.message ++ "\n"))

/-- What is printed for a line at the prompt, if the line does not end the program. -/
def respond (r : Registry K) (display : Display) (line : String) :
    Except Breakdown (Option Output) :=
  match Line.ofText line with
  | .blank => .ok (some .empty)
  | .farewell => .ok none
  | .expression input => (reply r display input).map some

/-- What is printed for the lines of the input. Every line is prompted for; at the end of the
input the prompt is followed by a line break. -/
def converse (r : Registry K) (display : Display) : List String → Except Breakdown Output
  | [] => .ok (.out (prompt ++ "\n"))
  | line :: lines => do
    match ← respond r display line with
    | none => .ok (.out prompt)
    | some first => do
      let rest ← converse r display lines
      .ok (.append (.out prompt) (.append first rest))

/-- The lines of the rest of an input. `line` is what has been read of the line that goes on there,
in reverse. -/
def linesFrom (line : List Char) : List Char → List String
  | [] => if line.isEmpty then [] else [String.ofList line.reverse]
  | c :: rest =>
    if c = '\n' then String.ofList line.reverse :: linesFrom [] rest
    else linesFrom (c :: line) rest

/-- The lines of an input; a line break at the end starts no further line. -/
def linesOf (input : String) : List String :=
  linesFrom [] input.toList

/-! ## The program -/

/-- The text about the program. -/
def helpText : String :=
  "Usage: unitcalc [OPTIONS] [EXPRESSION]...\n\n" ++
  "  Evaluate EXPRESSION, or start an interactive prompt when none is given.\n\n" ++
  "Options:\n" ++
  "  --si              Show results in SI units.\n" ++
  "  --log-level NAME  DEBUG, INFO, WARNING or ERROR, in any case.\n" ++
  "  --help            Show this text.\n"

/-- The text about a wrong option. -/
def misuseText : String := "Usage: unitcalc [OPTIONS] [EXPRESSION]...\n"

/-- What the program does with its arguments and its whole input. -/
def run (r : Registry K) (arguments : List String) (input : String) :
    Except Breakdown Result :=
  match Request.ofArguments arguments with
  | .misuse => .ok ⟨2, .err misuseText⟩
  | .help => .ok ⟨0, .out helpText⟩
  | .evaluate display expression => answer r display expression
  | .prompt display => do
    let output ← converse r display (linesOf input)
    .ok ⟨0, output⟩

end UnitCalc.Console
