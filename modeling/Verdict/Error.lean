import Verdict.Expression.Parser
import Verdict.Json.Decoding
/-!
The errors of the rule engine as causes, with their wordings and codes.
-/

namespace Verdict

open Expression (SyntaxError)

inductive Violation where
  | emptyVersion
  | emptySetName
  | emptyRuleId
  | emptyRuleName
  | priorityOutOfRange
  | noConditions
  | noActions
  | duplicateId (id : String)
  | unknownAction
  | conditionsNotArray
  | conditionNotObject
  | unknownKey
  | badConnective
  | expressionNotString
  | expressionBesideField
  | missingPath
  | badOperator
  | missingValue
  | unknownApproval (name : String)
deriving DecidableEq, Repr

def Violation.message : Violation → String
  | emptyVersion => "版本号不能为空"
  | emptySetName => "规则集名称不能为空"
  | emptyRuleId => "规则 ID 不能为空"
  | emptyRuleName => "规则名称不能为空"
  | priorityOutOfRange => "优先级必须在1-10之间"
  | noConditions => "至少需要一个条件"
  | noActions => "至少需要一个动作"
  | duplicateId id => "规则 ID 重复: " ++ id
  | unknownAction => "动作类型必须是 approve、reject、flag、calculate、notify 或 modify"
  | conditionsNotArray => "条件列表必须是数组"
  | conditionNotObject => "条件必须是对象"
  | unknownKey => "不允许的字段"
  | badConnective => "逻辑操作符必须是 AND 或 OR"
  | expressionNotString => "表达式必须是字符串"
  | expressionBesideField => "表达式条件不能同时包含字段比较"
  | missingPath => "field 为必填字符串"
  | badOperator => "无效的操作符"
  | missingValue => "value 为必填项"
  | unknownApproval name => "未知的审批动作: " ++ name ++ "（支持 autoApprove、setUrgency、requireApproval）"

structure FieldViolation where
  path : String
  violation : Violation
deriving DecidableEq, Repr

def FieldViolation.report (broken : Bool) (path : String) (violation : Violation) : List FieldViolation :=
  if broken then [⟨path, violation⟩] else []

inductive Document where
  | ruleSet
  | rule
  | patch
  | evaluationRequest
  | batchRequest
  | approvalRules
deriving DecidableEq, Repr

def Document.title : Document → String
  | ruleSet => "规则配置"
  | rule => "规则"
  | patch => "规则更新"
  | evaluationRequest => "评估请求"
  | batchRequest => "批量评估请求"
  | approvalRules => "审批规则"

/-- Why a document is refused: it cannot be read, its shape is wrong, it breaks constraints, or it has
nothing to say. -/
inductive SchemaFault where
  | unreadable (document : Document) (cause : DecodeError)
  | malformed (document : Document) (details : List FieldViolation)
  | invalid (document : Document) (details : List FieldViolation)
  | emptyPatch
  | patchNotObject
  | requestNotObject
deriving Repr

namespace SchemaFault

def message : SchemaFault → String
  | unreadable document cause => document.title ++ "格式无效: " ++ cause.message
  | malformed document _ => document.title ++ "格式无效"
  | invalid document _ => document.title ++ "校验失败"
  | emptyPatch => "至少需要提供一个更新字段"
  | patchNotObject => "规则更新内容必须是 JSON 对象"
  | requestNotObject => "采购申请必须是 JSON 对象"

def details : SchemaFault → List FieldViolation
  | malformed _ details => details
  | invalid _ details => details
  | _ => []

end SchemaFault

/-- The rule in which an expression stands, with the source of the expression. -/
structure ExpressionOwner where
  ruleId : String
  source : String
deriving DecidableEq, Repr

/-- The wording of a syntax error, with the expression that it concerns if it stands in a rule. -/
def syntaxMessage (error : SyntaxError) : Option ExpressionOwner → String
  | none => error.fault.message
  | some owner => "规则 " ++ owner.ruleId ++ " 的表达式 '" ++ owner.source ++ "': " ++ error.fault.message

def syntaxReport (error : SyntaxError) (owner : Option ExpressionOwner) : String :=
  "表达式解析失败（位置 " ++ toString error.position ++ "）: " ++ syntaxMessage error owner

inductive ConditionFault where
  | emptyPath
  | badExpression (error : SyntaxError)
  | missingField (path : String)
  | fieldNotNumber (path : String) (kind : String)
  | expectedNotNumber (kind : String)
deriving DecidableEq, Repr

def ConditionFault.message : ConditionFault → String
  | emptyPath => "字段路径为空"
  | badExpression error => syntaxReport error none
  | missingField path => "字段 '" ++ path ++ "' 不存在，无法进行数值比较"
  | fieldNotNumber path kind => "字段 '" ++ path ++ "' 的值不是数字（" ++ kind ++ "）"
  | expectedNotNumber kind => "期望值不是数字（" ++ kind ++ "）"

inductive RuleError where
  | schema (fault : SchemaFault)
  | ruleNotFound (id : String)
  | rulesNotLoaded
  | noActiveRules
  | badExpression (error : SyntaxError) (owner : Option ExpressionOwner)
  | evaluation (fault : ConditionFault)
  | json (cause : DecodeError)
deriving Repr

namespace RuleError

def code : RuleError → String
  | schema _ => "SCHEMA_ERROR"
  | ruleNotFound _ => "RULE_NOT_FOUND"
  | rulesNotLoaded => "RULE_NOT_FOUND"
  | noActiveRules => "NO_RULES_CONFIGURED"
  | badExpression _ _ => "PARSE_ERROR"
  | evaluation _ => "EVALUATION_ERROR"
  | json _ => "JSON_ERROR"

def message : RuleError → String
  | schema fault => "配置结构无效: " ++ fault.message
  | ruleNotFound id => "规则未找到: " ++ id
  | rulesNotLoaded => "规则未找到: 尚未加载规则配置"
  | noActiveRules => "未配置任何启用的规则"
  | badExpression error owner => syntaxReport error owner
  | evaluation fault => "条件评估失败: " ++ fault.message
  | json cause => "JSON 序列化错误: " ++ cause.message

def details : RuleError → List FieldViolation
  | schema fault => fault.details
  | _ => []

def position? : RuleError → Option Nat
  | badExpression error _ => some error.position
  | _ => none

end RuleError

end Verdict
