import IssueQuery.Text.Basic

namespace IssueQuery.Text

theorem quotedAfter_append (q : Bool) (t u : Text) :
    quotedAfter q (t ++ u) = quotedAfter (quotedAfter q t) u :=
  List.foldl_append

theorem quotedAfter_cons (q : Bool) (c : Char) (t : Text) :
    quotedAfter q (c :: t) = quotedAfter (quoteStep q c) t := rfl

theorem quoteStep_of_ne {c : Char} (other : c ≠ '"') (q : Bool) : quoteStep q c = q := if_neg other

theorem quotedAfter_of_not_mem {t : Text} (free : '"' ∉ t) (q : Bool) : quotedAfter q t = q := by
  induction t with
  | nil => rfl
  | cons c t ih =>
    rw [List.mem_cons, not_or] at free
    rw [quotedAfter_cons, quoteStep_of_ne (Ne.symm free.1), ih free.2]

/-- Every quoted stretch that starts in the text also ends in it. -/
def IsClosed (t : Text) : Prop := quotedAfter false t = false

theorem isClosed_of_not_mem {t : Text} (free : '"' ∉ t) : IsClosed t := quotedAfter_of_not_mem free false

theorem IsClosed.append {t u : Text} (first : IsClosed t) (second : IsClosed u) : IsClosed (t ++ u) := by
  rw [IsClosed, quotedAfter_append, first, second]

end IssueQuery.Text
