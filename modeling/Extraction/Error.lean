import Extraction.Rule.Mode

/-!
# Failures

Every way in which compiling or running a rule can fail, as a cause. The wording of each cause is
in one place: `Fault.reason` for what can be wrong with the text of a rule, `RuleError.message` for
failures as a whole.
-/

namespace Extraction

/-- What can be wrong with the text of a rule. -/
inductive Fault where
  -- cutting a rule into steps
  | unclosedScript
  | unexpectedCloser (closer : Char)
  | unclosedQuote
  | unclosedBracket (opener : Char)
  | emptyStep (position : Nat)
  -- the regular expression of a step
  | tooManyFences
  | replacementWithoutPattern
  | patternRejected
  | groupUnreadable (group : Text)
  | groupOutOfRange (group last : Nat)
  | notSingleStep (count : Nat)
  -- variable maps
  | pairWithoutSeparator (pair : Text)
  | variableNameInvalid (name : Text)
  | variableRepeated (name : Text)
  -- paths into JSON values
  | descentWithoutKey
  | emptyKey
  | unclosedSubscript
  | subscriptInvalid (body : Text)
  | pathUnreadable (rest : Text)
  -- location paths
  | emptyExpression
  | trailingSeparator
  | emptyLocationStep
  | predicateMalformed (rest : Text)
  | predicateUnclosed
  | nameInvalid (name : Text)
  | predicateUnsupported (body : Text)
  -- selectors of elements, and of plain text
  | selectorRejected
  | textPatternRejected
  deriving DecidableEq

namespace Fault

/-- The wording of a fault. -/
def reason : Fault → Text
  | unclosedScript => "脚本块 <js> 未闭合".toList
  | unexpectedCloser c => "括号不匹配：多余的 '".toList ++ c :: ['\'']
  | unclosedQuote => "引号未闭合".toList
  | unclosedBracket c => "括号不匹配：'".toList ++ c :: "' 未闭合".toList
  | emptyStep n => "第".toList ++ Text.ofNat n ++ "个步骤为空".toList
  | tooManyFences => "正则替换段过多，格式应为 ##正则##替换##分组".toList
  | replacementWithoutPattern => "正则为空却指定了替换内容或分组".toList
  | patternRejected => "正则编译失败：".toList
  | groupUnreadable g => "分组序号无效：".toList ++ g
  | groupOutOfRange g last =>
    "分组序号".toList ++ Text.ofNat g ++ "超出正则分组数".toList ++ Text.ofNat last
  | notSingleStep n => "单值规则只能包含一个步骤，实际为".toList ++ Text.ofNat n ++ ['个']
  | pairWithoutSeparator pair => "变量定义缺少 @@ 分隔：".toList ++ pair
  | variableNameInvalid name => "变量名无效：'".toList ++ name ++ ['\'']
  | variableRepeated name => "变量名重复：".toList ++ name
  | descentWithoutKey => "JSONPath 递归下降缺少键名".toList
  | emptyKey => "JSONPath 键名为空".toList
  | unclosedSubscript => "JSONPath 方括号未闭合".toList
  | subscriptInvalid body => "JSONPath 方括号内容无效：[".toList ++ body ++ [']']
  | pathUnreadable rest => "JSONPath 无法解析：".toList ++ rest
  | emptyExpression => "XPath 表达式为空".toList
  | trailingSeparator => "XPath 以分隔符结尾".toList
  | emptyLocationStep => "XPath 步骤为空".toList
  | predicateMalformed rest => "XPath 谓词格式错误：".toList ++ rest
  | predicateUnclosed => "XPath 谓词未闭合".toList
  | nameInvalid name => "XPath 名称无效：".toList ++ name
  | predicateUnsupported body => "不支持的 XPath 谓词：[".toList ++ body ++ [']']
  | selectorRejected => "CSS 选择器无效：".toList
  | textPatternRejected => "文本正则编译失败：".toList

end Fault

/-- What can be wrong with an address. -/
inductive UrlFault where
  | emptyHost
  | invalidDomain
  | forbiddenCharacter
  | invalidPort
  | invalidIpv4
  | invalidIpv6
  | relativeWithoutBase
  | baseCannotBeABase
  deriving DecidableEq

namespace UrlFault

/-- The wording of a fault of an address. -/
def reason : UrlFault → Text
  | emptyHost => "empty host".toList
  | invalidDomain => "invalid international domain name".toList
  | forbiddenCharacter => "invalid domain character".toList
  | invalidPort => "invalid port number".toList
  | invalidIpv4 => "invalid IPv4 address".toList
  | invalidIpv6 => "invalid IPv6 address".toList
  | relativeWithoutBase => "relative URL without a base".toList
  | baseCannotBeABase => "relative URL with a cannot-be-a-base base".toList

end UrlFault

/-- What can be wrong with a base64 text. Offsets count bytes. -/
inductive Base64Fault where
  | symbol (byte offset : Nat)
  | length (count : Nat)
  | lastSymbol (byte offset : Nat)
  | padding
  deriving DecidableEq

namespace Base64Fault

/-- The wording of a fault of a base64 text. -/
def reason : Base64Fault → Text
  | symbol byte offset =>
    "Invalid symbol ".toList ++ Text.ofNat byte ++ ", offset ".toList ++ Text.ofNat offset ++ ['.']
  | length n => "Invalid input length: ".toList ++ Text.ofNat n
  | lastSymbol byte offset =>
    "Invalid last symbol ".toList ++ Text.ofNat byte ++ ", offset ".toList ++ Text.ofNat offset ++
      ['.']
  | padding => "Invalid padding".toList

end Base64Fault

/-- An input that is refused although its form is right. -/
inductive InputFault where
  | timeoutZero
  | addressEmpty
  | base64 (fault : Base64Fault)
  | documentMissing
  deriving DecidableEq

namespace InputFault

/-- The wording of a refusal. -/
def reason : InputFault → Text
  | timeoutZero => "httpTimeout 不能为 0".toList
  | addressEmpty => "ajax 地址为空".toList
  | base64 fault => "base64 解码失败：".toList ++ fault.reason
  | documentMissing => "doc".toList

end InputFault

/-- How a script fails: by throwing an error that is of no special kind and has a message, by an
error of one of the special kinds, by running past a limit, by throwing anything else, or by leaving
behind an array or an object that holds undefined. -/
inductive ScriptFault where
  | error (message : Text)
  | kind (name : Text)
  | limit
  | other
  | unconvertible
  deriving DecidableEq

namespace ScriptFault

/-- The wording of a script's failure. -/
def reason : ScriptFault → Text
  | error message => "Error: ".toList ++ message
  | kind name => name
  | limit => "RuntimeLimit".toList
  | other => "Other".toList
  | unconvertible => "undefined".toList

end ScriptFault

/-- A failure of compiling or running a rule. -/
inductive RuleError where
  /-- The text `rule` cannot be read. -/
  | malformed (rule : Text) (fault : Fault)
  | script (fault : ScriptFault)
  /-- A step of this dialect does not apply to this kind of value. -/
  | backendMismatch (mode : Mode) (backend : Backend)
  | missingBaseUrl
  | url (fault : UrlFault)
  /-- A request did not come about. -/
  | request
  /-- A request was answered with a status that reports no success. -/
  | status (address : Text) (code : Nat)
  | json
  | sessionAborted
  | sessionTimeout
  | input (fault : InputFault)
  deriving DecidableEq

namespace RuleError

/-- The wording of a failure. -/
def message : RuleError → Text
  | malformed rule fault => "规则语法错误：".toList ++ fault.reason ++ "（规则：".toList ++ rule ++ ['）']
  | script fault => "脚本执行失败：".toList ++ fault.reason
  | backendMismatch mode backend =>
    "后端不匹配：".toList ++ mode.name ++ " 规则无法作用于 ".toList ++ backend.name ++ " 节点".toList
  | missingBaseUrl => "未配置基础URL，无法解析相对地址".toList
  | url fault => "URL解析失败：".toList ++ fault.reason
  | request => "网络请求失败：".toList
  | status address code =>
    "请求 ".toList ++ address ++ " 返回状态码 ".toList ++ Text.ofNat code
  | json => "JSON解析失败：".toList
  | sessionAborted => "抽取会话异常终止：".toList
  | sessionTimeout => "抽取会话超时".toList
  | input fault => "无效输入：".toList ++ fault.reason

end RuleError

end Extraction
