import Verdict.Text.Digits
import Verdict.Decimal.Layout
/-!
The tokens of condition expressions, and what can be wrong with an expression.
-/

namespace Verdict.Expression

open Decimal (FiniteFloat)

inductive Comparator where
  | greater
  | less
  | greaterEqual
  | lessEqual
  | equal
  | different
deriving DecidableEq, Repr

def Comparator.name : Comparator → String
  | .greater => "Gt"
  | .less => "Lt"
  | .greaterEqual => "Ge"
  | .lessEqual => "Le"
  | .equal => "Eq"
  | .different => "Ne"

/-- Whether a comparison holds of two values that stand in an order. -/
def Comparator.holds : Comparator → Ordering → Bool
  | .greater, order => order == .gt
  | .less, order => order == .lt
  | .greaterEqual, order => order != .lt
  | .lessEqual, order => order != .gt
  | .equal, order => order == .eq
  | .different, order => order != .eq

inductive Token where
  | identifier (name : String)
  | number (value : FiniteFloat)
  | string (text : String)
  | boolean (value : Bool)
  | null
  | comparison (comparator : Comparator)
  | and
  | or
  | openParenthesis
  | closeParenthesis
deriving DecidableEq, Repr

def Token.description : Token → String
  | .identifier name => "标识符 '" ++ name ++ "'"
  | .number value => "数字 " ++ Decimal.messageLayout.text value
  | .string text => "字符串 '" ++ text ++ "'"
  | .boolean value => if value then "true" else "false"
  | .null => "null"
  | .comparison comparator => "比较运算符 " ++ comparator.name
  | .and => "'&&'"
  | .or => "'||'"
  | .openParenthesis => "'('"
  | .closeParenthesis => "')'"

/-- After these tokens an operand is due, so that a hyphen there is a sign. -/
def Token.awaitsOperand : Token → Bool
  | .comparison _ | .and | .or | .openParenthesis => true
  | _ => false

/-- A token with the byte offset at which its lexeme starts. -/
structure Located where
  token : Token
  offset : Nat
deriving DecidableEq, Repr

def nestingLimit : Nat := 64

inductive SyntaxFault where
  | empty
  | assignment
  | negation
  | strayCharacter (character : Char)
  | unclosedString
  | badNumber
  | unexpectedEnd
  | unexpectedToken (token : Token)
  | missingParenthesis
  | expectedParenthesis (found : Token)
  | chainedComparison
  | nestedTooDeep
deriving DecidableEq, Repr

def SyntaxFault.message : SyntaxFault → String
  | .empty => "表达式为空"
  | .assignment => "不支持赋值，比较请使用 '=='"
  | .negation => "不支持取反运算符 '!'"
  | .strayCharacter character => "意外的字符 '" ++ character.toString ++ "'"
  | .unclosedString => "字符串未闭合"
  | .badNumber => "数字字面量无效"
  | .unexpectedEnd => "表达式意外结束"
  | .unexpectedToken token => "意外的 " ++ token.description
  | .missingParenthesis => "缺少 ')'"
  | .expectedParenthesis found => "期望 ')'，实际为 " ++ found.description
  | .chainedComparison => "比较运算符不能连用"
  | .nestedTooDeep => "括号嵌套超过 " ++ toString nestingLimit ++ " 层"

/-- A fault and the byte offset that is blamed for it. -/
structure SyntaxError where
  position : Nat
  fault : SyntaxFault
deriving DecidableEq, Repr

end Verdict.Expression
