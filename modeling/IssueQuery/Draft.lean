import IssueQuery.Filter
import IssueQuery.Settings

namespace IssueQuery

/-- A filter as it is edited: on the custom field of an id, else on the field of a name, else, if the
name starts with `#`, a hashtag. -/
structure DraftFilter where
  name : Text
  operator : Option Operator
  value : Option RawValue
  customId : Option Text
  deriving DecidableEq, Repr

structure DraftSort where
  name : Text
  direction : Direction
  customId : Option Text
  deriving DecidableEq, Repr

/-- A query as a list of filters, which all have to hold, and a list of sort keys. -/
structure Draft where
  filters : List DraftFilter
  sortBy : List DraftSort
  deriving DecidableEq, Repr

/-- A filter as it is reported back, under the declared name of its field or hashtag. -/
inductive ReportedFilter where
  | field (name : Text) (operator : Option Operator) (value : RawValue) (type : Text) (customId : Option Text)
  | hashtag (name : Text)
  deriving DecidableEq, Repr

/-- A sort key as it is reported back; only a field that the schema lacks has no type. -/
structure ReportedSort where
  name : Text
  direction : Direction
  type : Option Text
  customId : Option Text
  deriving DecidableEq, Repr

/-- A field that no filter uses yet. -/
structure AvailableField where
  name : Text
  type : Text
  customId : Option Text
  deriving DecidableEq, Repr

/-- A query as text together with the filters and sort keys that it spells. A query without sort keys
is reported with the default sort. -/
structure Report where
  query : Text
  filters : List ReportedFilter
  sortBy : List ReportedSort
  availableFields : List AvailableField
  deriving DecidableEq, Repr

end IssueQuery
