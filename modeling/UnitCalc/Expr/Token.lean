import UnitCalc.Expr.Lexeme

/-!
# Tokens

The grammar sees a lexeme by its terminal: an operator sign, a keyword, a number with or
without a sign, or a unit of the registry. A lexeme that is none of these has the terminal
`unknown`, which no rule of the grammar mentions.
-/

namespace UnitCalc.Expr

/-- The terminals of the grammar, in the order in which a lexeme is tried for them. -/
inductive Terminal where
  | arrow
  | plus
  | minus
  | star
  | slash
  | percent
  | caret
  | bang
  | leftParen
  | rightParen
  | e
  | pi
  | sqrt
  | log
  | ln
  | number
  | positiveNumber
  | negativeNumber
  | unit
  | unknown
deriving Repr, DecidableEq

namespace Terminal

/-- The terminals that lexemes are tried for, in order. -/
def all : List Terminal := [
  .arrow, .plus, .minus, .star, .slash, .percent, .caret, .bang, .leftParen, .rightParen,
  .e, .pi, .sqrt, .log, .ln, .number, .positiveNumber, .negativeNumber, .unit]

/-- The name of a terminal. A name with an underscore leaves no trace in derivation trees. -/
def name : Terminal → String
  | .arrow => "_ARROW"
  | .plus => "_PLUS"
  | .minus => "_MINUS"
  | .star => "_STAR"
  | .slash => "_SLASH"
  | .percent => "_PERCENT"
  | .caret => "_CARET"
  | .bang => "_BANG"
  | .leftParen => "_LPAR"
  | .rightParen => "_RPAR"
  | .e => "_E"
  | .pi => "_PI"
  | .sqrt => "_SQRT"
  | .log => "_LOG"
  | .ln => "_LN"
  | .number => "NUMBER"
  | .positiveNumber => "PNUMBER"
  | .negativeNumber => "NNUMBER"
  | .unit => "UNIT"
  | .unknown => "UNKNOWN"

/-- The terminal with a given name. -/
def ofName (name : String) : Terminal :=
  (all.find? (·.name == name)).getD .unknown

/-- The lexemes that are operator signs or keywords. -/
def fixed : List (String × Terminal) := [
  ("->", .arrow), ("+", .plus), ("-", .minus), ("*", .star), ("/", .slash),
  ("%", .percent), ("^", .caret), ("!", .bang), ("(", .leftParen), (")", .rightParen),
  ("e", .e), ("pi", .pi), ("sqrt", .sqrt), ("log", .log), ("ln", .ln)]

/-- The terminal of a numeral, by its sign. -/
def ofNumeral : List Char → Terminal
  | '+' :: _ => .positiveNumber
  | '-' :: _ => .negativeNumber
  | _ => .number

/-- The terminal of a text that is neither an operator sign nor a keyword. -/
def ofOther {K : Type} [Scalar K] (r : Registry K) (text : String) : Terminal :=
  if Number.Numeral.isNumeral text.toList then ofNumeral text.toList
  else if r.has text then .unit
  else .unknown

/-- The terminal of a lexeme. The empty text has none, for it has no first character. -/
def ofText? {K : Type} [Scalar K] (r : Registry K) (text : String) : Option Terminal :=
  match fixed.lookup text with
  | some terminal => some terminal
  | none => if text.isEmpty then none else some (ofOther r text)

end Terminal

/-- A lexeme with its terminal. -/
structure Token extends Lexeme where
  terminal : Terminal
deriving Repr, DecidableEq

namespace Token

variable {K : Type} [Scalar K]

/-- The token of a lexeme. -/
def ofLexeme (r : Registry K) (lexeme : Lexeme) : Token :=
  { lexeme with terminal := (Terminal.ofText? r lexeme.text).getD .unknown }

/-- The tokens of an expression. -/
def scan (r : Registry K) (text : String) : List Token :=
  (Lexeme.scan r text).map (ofLexeme r)

end Token

end UnitCalc.Expr
