/-
ScriptLexer/Token/Kind.lean

What a token is: an operator or delimiter (`Symbol`), a reserved word
(`Keyword`), an identifier, an integer, a character that belongs to nothing, or
the end of the text.

Symbols and keywords are kinds with one spelling each, so their spellings are
given here once, and everything else that concerns spelling is read off them:
which words are reserved (`Kind.ofWord`) and which characters begin a symbol
(`ScriptLexer.Alphabet`).
-/

namespace ScriptLexer

/-! ### Operators and delimiters -/

/-- The operators and delimiters of the language. -/
inductive Symbol where
  | assign
  | plus
  | minus
  | bang
  | asterisk
  | slash
  | less
  | greater
  | equal
  | notEqual
  | comma
  | semicolon
  | leftParen
  | rightParen
  | leftBrace
  | rightBrace
  deriving DecidableEq, Repr

namespace Symbol

/-- Every symbol, in the order of listing. -/
def all : List Symbol :=
  [assign, plus, minus, bang, asterisk, slash, less, greater, equal, notEqual,
   comma, semicolon, leftParen, rightParen, leftBrace, rightBrace]

/-- How a symbol is written. -/
def spelling : Symbol → String
  | assign => "="
  | plus => "+"
  | minus => "-"
  | bang => "!"
  | asterisk => "*"
  | slash => "/"
  | less => "<"
  | greater => ">"
  | equal => "=="
  | notEqual => "!="
  | comma => ","
  | semicolon => ";"
  | leftParen => "("
  | rightParen => ")"
  | leftBrace => "\x7b"
  | rightBrace => "\x7d"

/-- The name under which a symbol is shown. -/
def name : Symbol → String
  | assign => "ASSIGN"
  | plus => "PLUS"
  | minus => "MINUS"
  | bang => "BANG"
  | asterisk => "ASTERISK"
  | slash => "SLASH"
  | less => "LT"
  | greater => "GT"
  | equal => "EQ"
  | notEqual => "NOT_EQ"
  | comma => "COMMA"
  | semicolon => "SEMICOLON"
  | leftParen => "LPAREN"
  | rightParen => "RPAREN"
  | leftBrace => "LBRACE"
  | rightBrace => "RBRACE"

/-- The name of a symbol in descriptions. -/
def label : Symbol → String
  | assign => "Assign"
  | plus => "Plus"
  | minus => "Minus"
  | bang => "Bang"
  | asterisk => "Asterisk"
  | slash => "Slash"
  | less => "Lt"
  | greater => "Gt"
  | equal => "Eq"
  | notEqual => "NotEq"
  | comma => "Comma"
  | semicolon => "Semicolon"
  | leftParen => "LParen"
  | rightParen => "RParen"
  | leftBrace => "LBrace"
  | rightBrace => "RBrace"

theorem mem_all (s : Symbol) : s ∈ all := by
  cases s <;> decide

end Symbol

/-! ### Reserved words -/

/-- The reserved words of the language. -/
inductive Keyword where
  | function
  | letBinding
  | trueLiteral
  | falseLiteral
  | ifBranch
  | elseBranch
  | returnValue
  deriving DecidableEq, Repr

namespace Keyword

/-- Every reserved word, in the order of listing. -/
def all : List Keyword :=
  [function, letBinding, trueLiteral, falseLiteral, ifBranch, elseBranch, returnValue]

/-- How a reserved word is written. -/
def spelling : Keyword → String
  | function => "fn"
  | letBinding => "let"
  | trueLiteral => "true"
  | falseLiteral => "false"
  | ifBranch => "if"
  | elseBranch => "else"
  | returnValue => "return"

/-- The name under which a reserved word is shown. -/
def name : Keyword → String
  | function => "FUNCTION"
  | letBinding => "LET"
  | trueLiteral => "TRUE"
  | falseLiteral => "FALSE"
  | ifBranch => "IF"
  | elseBranch => "ELSE"
  | returnValue => "RETURN"

/-- The name of a reserved word in descriptions. -/
def label : Keyword → String
  | function => "Function"
  | letBinding => "Let"
  | trueLiteral => "True"
  | falseLiteral => "False"
  | ifBranch => "If"
  | elseBranch => "Else"
  | returnValue => "Return"

/-- The reserved word that is written as the given word, if there is one. -/
def ofWord? (word : String) : Option Keyword :=
  all.find? fun keyword => keyword.spelling == word

theorem mem_all (k : Keyword) : k ∈ all := by
  cases k <;> decide

/-- A word is reserved exactly when it is the spelling of a reserved word. -/
theorem ofWord?_eq_some_iff {word : String} {k : Keyword} :
    ofWord? word = some k ↔ k.spelling = word := by
  constructor
  · intro h
    simpa using List.find?_some h
  · rintro rfl
    cases k <;> decide

end Keyword

/-! ### Kinds -/

/-- The kind of a token. -/
inductive Kind where
  | illegal
  | eof
  | ident
  | int
  | symbol (s : Symbol)
  | keyword (k : Keyword)
  deriving DecidableEq, Repr

namespace Kind

/-- Every kind, in the order of listing. -/
def all : List Kind :=
  [illegal, eof, ident, int] ++ Symbol.all.map symbol ++ Keyword.all.map keyword

/-- The name under which a kind is shown. -/
def name : Kind → String
  | illegal => "ILLEGAL"
  | eof => "EOF"
  | ident => "IDENT"
  | int => "INT"
  | symbol s => s.name
  | keyword k => k.name

/-- The name of a kind in descriptions. -/
def label : Kind → String
  | illegal => "Illegal"
  | eof => "EOF"
  | ident => "Ident"
  | int => "Int"
  | symbol s => s.label
  | keyword k => k.label

/-- Whether a kind is a reserved word. -/
def isKeyword : Kind → Bool
  | keyword _ => true
  | _ => false

/-- The kind of a word: reserved words have their own, all others are
identifiers. -/
def ofWord (word : String) : Kind :=
  match Keyword.ofWord? word with
  | some k => keyword k
  | none => ident

/-- The kind that is shown under the given name. -/
def ofName? (name : String) : Option Kind :=
  all.find? fun kind => kind.name == name

/-- A word is never the end of a text. -/
@[simp] theorem ofWord_ne_eof (word : String) : ofWord word ≠ eof := by
  unfold ofWord
  split <;> exact Kind.noConfusion

/-- A word is never an illegal character. -/
@[simp] theorem ofWord_ne_illegal (word : String) : ofWord word ≠ illegal := by
  unfold ofWord
  split <;> exact Kind.noConfusion

theorem mem_all (kind : Kind) : kind ∈ all := by
  rcases kind with - | - | - | - | s | k
  case symbol => exact List.mem_append_left _ (List.mem_append_right _ (List.mem_map_of_mem s.mem_all))
  case keyword => exact List.mem_append_right _ (List.mem_map_of_mem k.mem_all)
  all_goals decide

/-- Different kinds are shown under different names. -/
theorem name_injective {a b : Kind} (h : a.name = b.name) : a = b := by
  have key : ∀ x ∈ all, ∀ y ∈ all, x.name = y.name → x = y := by decide
  exact key a a.mem_all b b.mem_all h

end Kind

end ScriptLexer
