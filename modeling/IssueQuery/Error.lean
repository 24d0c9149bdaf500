import IssueQuery.Operator
import IssueQuery.Text.Quoted
import IssueQuery.Token

namespace IssueQuery

/-- What is wrong with the text of one filter or sort key. -/
inductive Fault where
  | missingHashtagName
  | textAfterHashtag
  | missingColon
  | blankFieldName
  | missingFieldName
  | missingValue
  | missingValueAfterComma
  | unexpectedCharacter (c : Char)
  | unterminatedQuote
  | unknownOperator (name : Text)
  | emptySegment (path : Text)
  | operatorNotAllowed (op : Operator)
  deriving DecidableEq, Repr

def Fault.message : Fault → Text
  | .missingHashtagName => "missing hashtag name".toList
  | .textAfterHashtag => "unexpected text after hashtag".toList
  | .missingColon => "expected ':' after field".toList
  | .blankFieldName => "empty field name".toList
  | .missingFieldName => "missing field name".toList
  | .missingValue => "missing value".toList
  | .missingValueAfterComma => "missing value after ','".toList
  | .unexpectedCharacter c => "unexpected character '".toList ++ [c, '\'']
  | .unterminatedQuote => "unterminated quoted string".toList
  | .unknownOperator name => "unknown operator '".toList ++ name ++ ['\'']
  | .emptySegment path => "empty path segment in '".toList ++ path ++ ['\'']
  | .operatorNotAllowed op => "operator '".toList ++ op.name.toList ++ "' is not allowed here".toList

/-- Why a query is refused. Positions count characters of the query text. -/
inductive QueryError where
  | invalidOperator (operator : Text) (position : Nat) (preceding : Option Token.Kind)
  | invalidBracket (bracket : Char) (position : Nat) (preceding : Option Token.Kind)
  | unmatchedBracket (position : Nat)
  | missingBracket (position : Nat)
  | unexpectedEnd (after : Text) (position : Nat)
  | unexpectedToken (token : Text) (position : Nat)
  | tooDeeplyNested (maxDepth : Nat)
  | invalidExpression (expression : Text) (position : Nat) (fault : Fault)
  | unknownField (field : Text)
  | fieldNotPermitted (field : Text)
  | invalidOperatorForField (field : Text) (operator : Operator) (allowed : List Operator)
  | multipleValues (field : Text) (operator : Operator)
  | unknownSortField (field : Text)
  | operatorNotSupported (operator : Token.Kind)
  | unquotableValue (value : Text)
  deriving DecidableEq, Repr

namespace QueryError

private def listed (names : List String) : Text := (String.intercalate ", " names).toList

private def position (n : Nat) : Text := "at position ".toList ++ Text.ofNat n

def message : QueryError → Text
  | .invalidOperator op n preceding =>
    "Invalid operator '".toList ++ op ++ "' ".toList ++ position n ++ ", expected one of: ".toList ++
      listed ((Token.Kind.following preceding).map Token.Kind.expectedLabel)
  | .invalidBracket c n preceding =>
    "Invalid bracket '".toList ++ [c] ++ "' ".toList ++ position n ++ ", expected one of: ".toList ++
      listed ((Token.Kind.following preceding).map Token.Kind.expectedLabel)
  | .unmatchedBracket n => "Unmatched ')' ".toList ++ position n
  | .missingBracket n => "Missing ')' ".toList ++ position n ++ " (end of query)".toList
  | .unexpectedEnd after n =>
    "Unexpected end of expression after '".toList ++ after ++ "' ".toList ++ position n
  | .unexpectedToken token n => "Unexpected token '".toList ++ token ++ "' ".toList ++ position n
  | .tooDeeplyNested maxDepth =>
    "Expression too deeply nested (max depth: ".toList ++ Text.ofNat maxDepth ++ [')']
  | .invalidExpression text n fault =>
    "Invalid expression '".toList ++ text ++ "' ".toList ++ position n ++ ": ".toList ++ fault.message
  | .unknownField field => "Unknown field '".toList ++ field ++ ['\'']
  | .fieldNotPermitted field => "Filtering on field '".toList ++ field ++ "' is not permitted".toList
  | .invalidOperatorForField field op allowed =>
    "Operator '".toList ++ op.name.toList ++ "' is not valid for field '".toList ++ field ++
      "', allowed: ".toList ++ listed (allowed.map Operator.name)
  | .multipleValues field op =>
    "Operator '".toList ++ op.name.toList ++ "' on field '".toList ++ field ++
      "' accepts a single value".toList
  | .unknownSortField field => "Unknown field for sorting '".toList ++ field ++ ['\'']
  | .operatorNotSupported op =>
    op.label.toList.map Char.toUpper ++ " operator is not supported".toList
  | .unquotableValue value => "Value ".toList ++ value.quoted ++ " cannot be written in a query".toList

end QueryError

end IssueQuery
