/-!
# Tokens of script text

Offsets count characters from the start of the text.
-/

namespace ModuleBundler.Script

/-- A stretch of the text, from `start` up to but without `stop`. -/
structure Span where
  start : Nat
  stop : Nat
  deriving DecidableEq, Inhabited

inductive Lexeme where
  /-- The end of the text. -/
  | finish
  /-- Characters that form no token. -/
  | invalid
  /-- An identifier or keyword with its escapes decoded. -/
  | word (name : String) (escaped : Bool)
  | privateName (name : String)
  | punctuator (text : String)
  | number
  /-- A string literal with its decoded value; `wellFormed` fails for a lone surrogate. -/
  | string (value : String) (wellFormed : Bool)
  /-- A template without substitutions; `valid` fails for an escape that denotes nothing. -/
  | template (valid : Bool)
  | templateHead (valid : Bool)
  | templateMiddle (valid : Bool)
  | templateTail (valid : Bool)
  | regex
  /-- The line `#!...` in front of a program. -/
  | hashbang
  deriving DecidableEq, Inhabited

structure Token where
  lexeme : Lexeme
  span : Span
  /-- Whether a line ends between the token before and this one. -/
  afterNewline : Bool
  deriving Inhabited

/-- Words that never name a variable. -/
def reservedWords : List String :=
  ["await", "break", "case", "catch", "class", "const", "continue", "debugger", "default",
   "delete", "do", "else", "enum", "export", "extends", "false", "finally", "for", "function",
   "if", "import", "in", "instanceof", "new", "null", "return", "super", "switch", "this",
   "throw", "true", "try", "typeof", "var", "void", "while", "with", "yield"]

/-- Words that only strict code reserves. -/
def strictWords : List String :=
  ["implements", "interface", "let", "package", "private", "protected", "public", "static"]

/-- Words with a meaning in some places only. -/
def contextualWords : List String :=
  ["async", "from", "get", "meta", "of", "set", "target", "accessor", "source", "defer", "as",
   "assert", "using", "constructor"]

def isReserved (name : String) : Bool := reservedWords.contains name

def isKeyword (name : String) : Bool :=
  isReserved name || strictWords.contains name || contextualWords.contains name

namespace Lexeme

/-- Any word may name a property. -/
def isName : Lexeme → Bool
  | .word .. => true
  | _ => false

/-- A word that is not reserved. -/
def isIdentifier : Lexeme → Bool
  | .word name _ => !isReserved name
  | _ => false

/-- Words that may name a binding; whether `await` and `yield` may is checked apart. -/
def isBinding : Lexeme → Bool
  | .word name _ => !isReserved name || name == "yield" || name == "await"
  | _ => false

/-- A variable may be called `yield` or `await` where these are no operators. -/
def isReference (yield await : Bool) : Lexeme → Bool
  | .word name _ => !isReserved name || (name == "yield" && !yield) || (name == "await" && !await)
  | _ => false

def isLiteral : Lexeme → Bool
  | .word name _ => name == "null" || name == "true" || name == "false"
  | .number | .string .. | .regex => true
  | _ => false

/-- Literals that may name a property. -/
def isLiteralName : Lexeme → Bool
  | .number | .string .. => true
  | _ => false

def isTemplateStart : Lexeme → Bool
  | .template _ | .templateHead _ => true
  | _ => false

end Lexeme

/-- How tightly a binary operator binds; `**` alone groups to the right. -/
def binaryPrecedence? : Lexeme → Option Nat
  | .punctuator p => match p with
    | "??" => some 1
    | "||" => some 2
    | "&&" => some 3
    | "|" => some 4
    | "^" => some 5
    | "&" => some 6
    | "==" | "!=" | "===" | "!==" => some 7
    | "<" | ">" | "<=" | ">=" => some 8
    | "<<" | ">>" | ">>>" => some 9
    | "+" | "-" => some 10
    | "*" | "/" | "%" => some 11
    | "**" => some 12
    | _ => none
  | .word "instanceof" _ | .word "in" _ => some 8
  | _ => none

def assignmentOperators : List String :=
  ["=", "+=", "-=", "*=", "/=", "%=", "**=", "<<=", ">>=", ">>>=", "&=", "^=", "|=", "&&=",
   "||=", "??="]

def isAssignmentOperator : Lexeme → Bool
  | .punctuator p => assignmentOperators.contains p
  | _ => false

def isLogicalOperator : Lexeme → Bool
  | .punctuator p => p == "??" || p == "||" || p == "&&"
  | _ => false

def isUnaryOperator : Lexeme → Bool
  | .punctuator p => p == "+" || p == "-" || p == "!" || p == "~"
  | .word name _ => name == "typeof" || name == "void" || name == "delete"
  | _ => false

def isUpdateOperator : Lexeme → Bool
  | .punctuator p => p == "++" || p == "--"
  | _ => false

end ModuleBundler.Script
