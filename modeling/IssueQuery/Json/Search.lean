import IssueQuery.Json.Settings
import IssueQuery.Search

namespace IssueQuery

def CompareOp.toJson : CompareOp → Json
  | .eq => .ofString "eq"
  | .ne => .ofString "ne"
  | .isIn => .ofString "in"
  | .notIn => .ofString "nin"
  | .lt => .ofString "lt"
  | .lte => .ofString "lte"
  | .gt => .ofString "gt"
  | .gte => .ofString "gte"
  | .regex ignoreCase => .ofMembers [("regex", .ofMembers [("case_insensitive", .bool ignoreCase)])]

def Comparison.toJson (c : Comparison) : Json :=
  .ofMembers [("field", .ofTexts c.path), ("op", c.op.toJson), ("value", c.value.toJson)]

namespace Predicate

mutual

def toJson : Predicate → Json
  | .compare c => .ofMembers [("compare", c.toJson)]
  | .not c => .ofMembers [("not", c.toJson)]
  | .and parts => .ofMembers [("and", .array (partsToJson parts))]
  | .or parts => .ofMembers [("or", .array (partsToJson parts))]
  | .nor parts => .ofMembers [("nor", .array (partsToJson parts))]

def partsToJson : List Predicate → List Json
  | [] => []
  | p :: ps => toJson p :: partsToJson ps

end

/-- The predicate of a query; one without filters has none. -/
def optionToJson (p : Option Predicate) : Json := (p.map toJson).getD .null

end Predicate

def SortKey.toJson (k : SortKey) : Json :=
  .ofMembers [("field", .string k.field), ("path", .ofTexts k.path), ("direction", k.direction.toJson)]

def Search.toJson (s : Search) : Json :=
  .ofMembers [("predicate", Predicate.optionToJson s.predicate), ("sort", .array (s.sort.map SortKey.toJson))]

end IssueQuery
