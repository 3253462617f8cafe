/-!
# Kinds of lexemes

Every lexeme of a source has one kind. The kinds fall into seven families, and each family lists its
members in order of priority; `Kind.all` strings the families together. Where several kinds fit at
one place of a source, the first in this order wins.
-/

namespace Lexis

/-- The kinds without a meaning of their own: comments and blanks. -/
inductive Trivia where
  | blockComment
  | lineComment
  | newline
  | tab
  | spaces
  deriving DecidableEq, Repr

namespace Trivia

def all : List Trivia :=
  [.blockComment, .lineComment, .newline, .tab, .spaces]

def name : Trivia → String
  | .blockComment => "BlockComment"
  | .lineComment => "LineComment"
  | .newline => "NewLine"
  | .tab => "Tab"
  | .spaces => "WhiteSpace"

end Trivia

/-- Brackets and separators. -/
inductive Punctuation where
  | openParen
  | closeParen
  | openCurly
  | closeCurly
  | openBracket
  | closeBracket
  | semicolon
  | colon
  | comma
  deriving DecidableEq, Repr

namespace Punctuation

def all : List Punctuation :=
  [.openParen, .closeParen, .openCurly, .closeCurly, .openBracket, .closeBracket, .semicolon,
    .colon, .comma]

def name : Punctuation → String
  | .openParen => "OpenParen"
  | .closeParen => "CloseParen"
  | .openCurly => "OpenCurly"
  | .closeCurly => "CloseCurly"
  | .openBracket => "OpenBracket"
  | .closeBracket => "CloseBracket"
  | .semicolon => "Semicolon"
  | .colon => "Colon"
  | .comma => "Comma"

def mark : Punctuation → Char
  | .openParen => '('
  | .closeParen => ')'
  | .openCurly => '{'
  | .closeCurly => '}'
  | .openBracket => '['
  | .closeBracket => ']'
  | .semicolon => ';'
  | .colon => ':'
  | .comma => ','

end Punctuation

inductive NumberForm where
  | scientific
  | octal
  | float
  | double
  | int
  | hex
  | binary
  deriving DecidableEq, Repr

namespace NumberForm

def all : List NumberForm :=
  [.scientific, .octal, .float, .double, .int, .hex, .binary]

def name : NumberForm → String
  | .scientific => "ScientificLiteral"
  | .octal => "OctalLiteral"
  | .float => "FloatLiteral"
  | .double => "DoubleLiteral"
  | .int => "IntLiteral"
  | .hex => "HexLiteral"
  | .binary => "BinaryLiteral"

end NumberForm

inductive QuotedForm where
  | textBlock
  | string
  | char
  deriving DecidableEq, Repr

namespace QuotedForm

def all : List QuotedForm :=
  [.textBlock, .string, .char]

def name : QuotedForm → String
  | .textBlock => "TextBlock"
  | .string => "StringLiteral"
  | .char => "CharLiteral"

end QuotedForm

inductive Keyword where
  | voidKw
  | intKw
  | doubleKw
  | floatKw
  | publicKw
  | privateKw
  | falseKw
  | trueKw
  | nullKw
  | returnKw
  | newKw
  | classKw
  | ifKw
  | elseKw
  | whileKw
  | forKw
  | staticKw
  | varKw
  | finalKw
  deriving DecidableEq, Repr

namespace Keyword

def all : List Keyword :=
  [.voidKw, .intKw, .doubleKw, .floatKw, .publicKw, .privateKw, .falseKw, .trueKw, .nullKw,
    .returnKw, .newKw, .classKw, .ifKw, .elseKw, .whileKw, .forKw, .staticKw, .varKw, .finalKw]

def name : Keyword → String
  | .voidKw => "Void"
  | .intKw => "Int"
  | .doubleKw => "Double"
  | .floatKw => "Float"
  | .publicKw => "Public"
  | .privateKw => "Private"
  | .falseKw => "False"
  | .trueKw => "True"
  | .nullKw => "Null"
  | .returnKw => "Return"
  | .newKw => "New"
  | .classKw => "Class"
  | .ifKw => "If"
  | .elseKw => "Else"
  | .whileKw => "While"
  | .forKw => "For"
  | .staticKw => "Static"
  | .varKw => "Var"
  | .finalKw => "Final"

def spelling : Keyword → List Char
  | .voidKw => ['v', 'o', 'i', 'd']
  | .intKw => ['i', 'n', 't']
  | .doubleKw => ['d', 'o', 'u', 'b', 'l', 'e']
  | .floatKw => ['f', 'l', 'o', 'a', 't']
  | .publicKw => ['p', 'u', 'b', 'l', 'i', 'c']
  | .privateKw => ['p', 'r', 'i', 'v', 'a', 't', 'e']
  | .falseKw => ['f', 'a', 'l', 's', 'e']
  | .trueKw => ['t', 'r', 'u', 'e']
  | .nullKw => ['n', 'u', 'l', 'l']
  | .returnKw => ['r', 'e', 't', 'u', 'r', 'n']
  | .newKw => ['n', 'e', 'w']
  | .classKw => ['c', 'l', 'a', 's', 's']
  | .ifKw => ['i', 'f']
  | .elseKw => ['e', 'l', 's', 'e']
  | .whileKw => ['w', 'h', 'i', 'l', 'e']
  | .forKw => ['f', 'o', 'r']
  | .staticKw => ['s', 't', 'a', 't', 'i', 'c']
  | .varKw => ['v', 'a', 'r']
  | .finalKw => ['f', 'i', 'n', 'a', 'l']

end Keyword

/-- The signs between operands. -/
inductive Operator where
  | equalEqual
  | equal
  | notEqual
  | point
  | plus
  | minus
  | multiply
  | divide
  | caret
  | greater
  | less
  deriving DecidableEq, Repr

namespace Operator

def all : List Operator :=
  [.equalEqual, .equal, .notEqual, .point, .plus, .minus, .multiply, .divide, .caret, .greater,
    .less]

def name : Operator → String
  | .equalEqual => "EqualEqual"
  | .equal => "Equal"
  | .notEqual => "NotEqual"
  | .point => "Point"
  | .plus => "Plus"
  | .minus => "Minus"
  | .multiply => "Multiply"
  | .divide => "Divide"
  | .caret => "Caret"
  | .greater => "Greater"
  | .less => "Less"

def spelling : Operator → List Char
  | .equalEqual => ['=', '=']
  | .equal => ['=']
  | .notEqual => ['!', '=']
  | .point => ['.']
  | .plus => ['+']
  | .minus => ['-']
  | .multiply => ['*']
  | .divide => ['/']
  | .caret => ['^']
  | .greater => ['>']
  | .less => ['<']

end Operator

inductive Kind where
  | trivia (form : Trivia)
  | punctuation (form : Punctuation)
  | number (form : NumberForm)
  | quoted (form : QuotedForm)
  | keyword (word : Keyword)
  | operator (sign : Operator)
  | identifier
  deriving DecidableEq, Repr

namespace Kind

def all : List Kind :=
  Trivia.all.map .trivia ++ Punctuation.all.map .punctuation ++ NumberForm.all.map .number ++
    QuotedForm.all.map .quoted ++ Keyword.all.map .keyword ++ Operator.all.map .operator ++
    [.identifier]

theorem mem_all (kind : Kind) : kind ∈ all := by
  cases kind with
  | trivia form => cases form <;> decide
  | punctuation form => cases form <;> decide
  | number form => cases form <;> decide
  | quoted form => cases form <;> decide
  | keyword word => cases word <;> decide
  | operator sign => cases sign <;> decide
  | identifier => decide

theorem nodup_all : all.Nodup := by
  decide

def name : Kind → String
  | .trivia form => form.name
  | .punctuation form => form.name
  | .number form => form.name
  | .quoted form => form.name
  | .keyword word => word.name
  | .operator sign => sign.name
  | .identifier => "Identifier"

def ofName? (name : String) : Option Kind :=
  all.find? (·.name == name)

/-- The place of a kind in the order of priority, counted from zero. -/
def rank (kind : Kind) : Nat :=
  all.idxOf kind

theorem rank_injective {left right : Kind} (same : left.rank = right.rank) : left = right := by
  have leftFound := List.getElem_idxOf (List.idxOf_lt_length_of_mem (mem_all left))
  have rightFound := List.getElem_idxOf (List.idxOf_lt_length_of_mem (mem_all right))
  simp only [rank] at same
  simp only [same] at leftFound
  exact leftFound.symm.trans rightFound

/-- Kinds compare by priority, the kind that is tried first being the least. -/
instance : Ord Kind where
  compare left right := compare left.rank right.rank

/-- Comments and blanks are recognised but carry no meaning. -/
def isTrivia : Kind → Bool
  | .trivia _ => true
  | _ => false

def isKeyword : Kind → Bool
  | .keyword _ => true
  | _ => false

/-- Kinds that denote a value by themselves: numbers, quoted literals and the reserved words `true`,
`false` and `null`. -/
def isLiteral : Kind → Bool
  | .number _ | .quoted _ => true
  | .keyword word => word = .falseKw ∨ word = .trueKw ∨ word = .nullKw
  | _ => false

/-- Kinds whose lexemes stand apart from the letters, digits and underscores around them: numbers,
reserved words and identifiers. -/
def isWordBounded : Kind → Bool
  | .number _ | .keyword _ | .identifier => true
  | _ => false

end Kind

end Lexis
