import IssueQuery.Draft.Wording
import IssueQuery.Proofs.Characters
import IssueQuery.Proofs.Segments
import IssueQuery.Proofs.Success

namespace IssueQuery

namespace Filter

/-- How the name of an operator is spelled: in letters of either case. -/
def OperatorForm (t : Text) (op : Operator) : Prop := t.map Char.toLower = op.name.toList

/-- How an identifier spells a path and an operator. -/
inductive IdentifierForm : Text → List Text → Option Operator → Prop
  | plain {t path} : ¬ operatorMark <:+: t → Segments t path → [] ∉ path → IdentifierForm t path none
  | marked {t before after path op} : LastMark t before after → OperatorForm after op → Segments before path →
      [] ∉ path → IdentifierForm t path (some op)

/-- How an operator, if there is one, is spelled behind a quoted name. -/
inductive SuffixForm : Text → Option Operator → Prop
  | plain : SuffixForm [] none
  | marked {t op} : OperatorForm t op → SuffixForm (operatorMark ++ t) (some op)

/-- How a field is spelled: by a quoted name, or by an identifier. -/
inductive FieldForm : Text → List Text → Option Operator → Prop
  | quoted {name t op} : '"' ∉ name → (∃ c ∈ name, isBlank c = false) → SuffixForm t op →
      FieldForm (quote name ++ t) [name] op
  | identifier {t path op} : t ≠ [] → (∀ c ∈ t, isIdentChar c = true) → IdentifierForm t path op →
      FieldForm t path op

/-- How an item of a value is spelled: in quotes, or as a run of bare characters. -/
inductive ItemForm : Text → Text → Prop
  | quoted {item} : '"' ∉ item → ItemForm (quote item) item
  | bare {item} : item ≠ [] → (∀ c ∈ item, isBareChar c = true) → ItemForm item item

/-- How the items of a value are spelled: with commas between them, and with any blanks around each. -/
inductive ItemsForm : Text → List Text → Prop
  | last {a t b item} : Text.IsBlank a → ItemForm t item → Text.IsBlank b → ItemsForm (a ++ (t ++ b)) [item]
  | next {a t b u item items} : Text.IsBlank a → ItemForm t item → Text.IsBlank b → ItemsForm u items →
      ItemsForm (a ++ (t ++ (b ++ ',' :: u))) (item :: items)

/-- How a value is spelled: one item is a scalar, more items are a list. -/
inductive ValueForm : Text → RawValue → Prop
  | scalar {t item} : ItemsForm t [item] → ValueForm t (.scalar item)
  | list {t items} : ItemsForm t items → 2 ≤ items.length → ValueForm t (.list items)

end Filter

/-- How a condition is spelled: as a hashtag, or as a field, a colon and a value. -/
inductive Condition.Form : Text → Condition → Prop
  | hashtag {a name b} : Text.IsBlank a → name ≠ [] → (∀ c ∈ name, isHashtagChar c = true) → Text.IsBlank b →
      Form (a ++ '#' :: (name ++ b)) (.hashtag name)
  | field {a t b u path op value} : Text.IsBlank a → Filter.FieldForm t path op → Text.IsBlank b →
      Filter.ValueForm u value → Form (a ++ (t ++ (b ++ ':' :: u))) (.field ⟨path, op, value⟩)

theorem Operator.ofText?_eq_some_iff {t : Text} {op : Operator} : ofText? t = some op ↔ Filter.OperatorForm t op := by
  unfold Filter.OperatorForm
  constructor
  · intro found
    rw [ofText?, ofName?] at found
    have same := List.find?_some found
    exact (eq_of_beq same).symm
  · intro letters
    rw [ofText?, letters]
    cases op <;> rfl

namespace Filter

/-- A run of letters is read off the front of a text that goes on with something else. -/
theorem takeWhile_append_stop {p : Char → Bool} {t u : Text} (letters : ∀ c ∈ t, p c = true)
    (stops : ∀ c ∈ u.head?, p c = false) :
    (t ++ u).takeWhile p = t ∧ (t ++ u).dropWhile p = u := by
  rw [List.takeWhile_append_of_pos letters, List.dropWhile_append_of_pos letters]
  cases u with
  | nil => simp
  | cons c u => simp [stops c rfl]

theorem readQuoted_eq_ok_iff {t item rest : Text} :
    readQuoted t = .ok (item, rest) ↔ t = item ++ '"' :: rest ∧ '"' ∉ item := by
  constructor
  · intro read
    unfold readQuoted at read
    split at read
    · cases read
    · rename_i c tail atQuote
      cases read
      have stops := List.head?_dropWhile_not (· != '"') t
      rw [atQuote] at stops
      simp only [List.head?_cons, bne_eq_false_iff_eq] at stops
      rw [stops] at atQuote
      constructor
      · rw [← atQuote, List.takeWhile_append_dropWhile]
      · intro member
        simpa using List.all_eq_true.mp List.all_takeWhile _ member
  · rintro ⟨rfl, free⟩
    have letters : ∀ c ∈ item, (c != '"') = true := by
      intro c member
      rw [bne_iff_ne]
      rintro rfl
      exact free member
    obtain ⟨taken, dropped⟩ := takeWhile_append_stop (p := (· != '"')) (u := '"' :: rest) letters (by simp)
    rw [readQuoted, taken, dropped]

theorem readOperator_eq_ok_iff {t : Text} {op : Operator} : readOperator t = .ok op ↔ OperatorForm t op := by
  rw [← Operator.ofText?_eq_some_iff, readOperator]
  cases Operator.ofText? t <;> simp

theorem isIdentChar_of_mem_name {op : Operator} {c : Char} (member : c ∈ op.name.toList) :
    isIdentChar c = true := by
  have letters : op.name.toList.all isIdentChar = true := by cases op <;> decide
  exact List.all_eq_true.mp letters c member

theorem OperatorForm.isIdentChar {t : Text} {op : Operator} (form : OperatorForm t op) :
    ∀ c ∈ t, isIdentChar c = true := by
  intro c member
  have lower : c.toLower ∈ op.name.toList := form ▸ List.mem_map_of_mem member
  rcases toLower_cases c with same | upper
  · exact same ▸ isIdentChar_of_mem_name lower
  · have alphabet : "ABCDEFGHIJKLMNOPQRSTUVWXYZ".toList.all IssueQuery.isIdentChar = true := by decide
    exact List.all_eq_true.mp alphabet c upper

theorem operatorForm_name (op : Operator) : OperatorForm op.name.toList op := by cases op <;> rfl

theorem readIdentifier_eq_ok_iff {t : Text} {path : List Text} {op : Option Operator} :
    readIdentifier t = .ok (path, op) ↔ IdentifierForm t path op := by
  constructor
  · intro read
    unfold readIdentifier at read
    split at read
    · rename_i before after parts
      obtain ⟨_, name, read⟩ := bind_eq_ok_iff.mp read
      obtain ⟨op, form, rfl⟩ := map_eq_ok_iff.mp name
      dsimp only at read
      split at read
      · cases read
      · rename_i filled
        cases read
        exact .marked (splitOperator?_eq_some_iff.mp parts) (readOperator_eq_ok_iff.mp form)
          (segments_splitPath before) filled
    · rename_i unmarked
      rw [ok_bind] at read
      dsimp only at read
      split at read
      · cases read
      · rename_i filled
        cases read
        exact .plain (splitOperator?_eq_none_iff.mp unmarked) (segments_splitPath t) filled
  · intro form
    cases form with
    | plain unmarked segments filled =>
      obtain rfl := splitPath_eq_iff.mpr segments
      rw [readIdentifier, splitOperator?_eq_none_iff.mpr unmarked]
      exact if_neg filled
    | marked mark form segments filled =>
      obtain rfl := splitPath_eq_iff.mpr segments
      rw [readIdentifier, splitOperator?_eq_some_iff.mpr mark]
      dsimp only
      rw [readOperator_eq_ok_iff.mpr form]
      exact if_neg filled

/-- What is read as a field spells it. -/
theorem exists_fieldForm {t rest : Text} {path : List Text} {op : Option Operator}
    (read : readField t = .ok ((path, op), rest)) : ∃ u, t = u ++ rest ∧ FieldForm u path op := by
  unfold readField at read
  split at read
  · obtain ⟨⟨name, after⟩, quoted, read⟩ := bind_eq_ok_iff.mp read
    obtain ⟨atName, free⟩ := readQuoted_eq_ok_iff.mp quoted
    rw [atName]
    dsimp only at read
    split at read
    · cases read
    · rename_i filled
      have visible := Text.trim_ne_nil_iff.mp filled
      split at read
      · cases read
        exact ⟨quote name ++ [], by simp [quote], .quoted free visible .plain⟩
      · rename_i tail mark
        split at read
        · rename_i op' form
          cases read
          refine ⟨quote name ++ (operatorMark ++ tail.takeWhile isIdentChar), ?_,
            .quoted free visible (.marked (readOperator_eq_ok_iff.mp form))⟩
          rw [afterMark?_eq_some_iff.mp mark]
          simp [quote, List.takeWhile_append_dropWhile]
        · cases read
  · dsimp only at read
    split at read
    · cases read
    · rename_i nonempty
      split at read
      · rename_i ident
        cases read
        exact ⟨t.takeWhile isIdentChar, List.takeWhile_append_dropWhile.symm,
          .identifier nonempty (List.all_eq_true.mp List.all_takeWhile) (readIdentifier_eq_ok_iff.mp ident)⟩
      · cases read

namespace FieldForm

variable {t u : Text} {path : List Text} {op : Option Operator}

theorem exists_head (form : FieldForm t path op) :
    ∃ c rest, t = c :: rest ∧ (c = '"' ∨ isIdentChar c = true) := by
  cases form with
  | quoted => exact ⟨'"', _, rfl, Or.inl rfl⟩
  | identifier nonempty letters =>
    obtain ⟨c, rest, rfl⟩ := List.exists_cons_of_ne_nil nonempty
    exact ⟨c, rest, rfl, Or.inr (letters c List.mem_cons_self)⟩

/-- A field is read back if no letters follow. -/
theorem readField (form : FieldForm t path op) (stops : ∀ c ∈ u.head?, isIdentChar c = false) :
    readField (t ++ u) = .ok ((path, op), u) := by
  cases form with
  | @quoted name t op free visible suffix =>
    have read : readQuoted (name ++ '"' :: (t ++ u)) = .ok (name, t ++ u) := readQuoted_eq_ok_iff.mpr ⟨rfl, free⟩
    have whole : quote name ++ t ++ u = '"' :: (name ++ '"' :: (t ++ u)) := by simp [quote]
    rw [whole, Filter.readField]
    simp only [read, bind, Except.bind, if_neg (Text.trim_ne_nil_iff.mpr visible)]
    cases suffix with
    | plain =>
      have unmarked : afterMark? u = none := by
        rw [afterMark?_eq_none_iff]
        rintro ⟨v, rfl⟩
        exact absurd (stops '_' rfl) (by decide)
      simp only [List.nil_append, unmarked]
    | @marked t op form =>
      obtain ⟨taken, dropped⟩ := takeWhile_append_stop form.isIdentChar stops
      have marked : afterMark? (operatorMark ++ t ++ u) = some (t ++ u) := rfl
      simp only [marked, taken, dropped, readOperator_eq_ok_iff.mpr form]
  | identifier nonempty letters form =>
    obtain ⟨taken, dropped⟩ := takeWhile_append_stop letters stops
    have read := readIdentifier_eq_ok_iff.mpr form
    obtain ⟨c, tail, rfl⟩ := List.exists_cons_of_ne_nil nonempty
    unfold Filter.readField
    split
    · rename_i eq
      cases eq
      exact absurd (letters '"' List.mem_cons_self) (by decide)
    · dsimp only
      rw [taken, dropped]
      simp only [read]

theorem trimStart_append (form : FieldForm t path op) {a : Text} (blank : a.IsBlank) (u : Text) :
    Text.trimStart (a ++ (t ++ u)) = t ++ u := by
  obtain ⟨c, rest, rfl, head⟩ := form.exists_head
  refine blank.trimStart_append ?_ (rest ++ u)
  rcases head with rfl | letter
  · decide
  · exact isBlank_of_isBareChar (isBareChar_of_isIdentChar letter)

end FieldForm

/-- A path is read from a field without an operator, with blanks around it or without. -/
theorem readPath_eq_ok_iff {t : Text} {path : List Text} :
    readPath t = .ok path ↔ ∃ a u b, t = a ++ (u ++ b) ∧ a.IsBlank ∧ FieldForm u path none ∧ b.IsBlank := by
  constructor
  · intro read
    unfold readPath at read
    split at read
    · cases read
    · rename_i path op rest field
      obtain ⟨a, atT, before⟩ := Text.exists_trimStart t
      obtain ⟨u, atField, form⟩ := exists_fieldForm field
      obtain ⟨b, atRest, after⟩ := Text.exists_trimStart rest
      split at read
      · cases read
      · cases read
      · rename_i last
        cases read
        rw [last, List.append_nil] at atRest
        exact ⟨a, u, b, by rw [atT, atField, atRest], before, form, after⟩
  · rintro ⟨a, u, b, rfl, before, form, after⟩
    have stops := after.stops (t := []) (fun letter => isBlank_of_isBareChar (isBareChar_of_isIdentChar letter)) (by simp)
    rw [List.append_nil] at stops
    rw [readPath, form.trimStart_append before, form.readField stops]
    dsimp only
    rw [after.trimStart]

/-- What is read as an item spells it. -/
theorem exists_itemForm {c : Char} {t item rest : Text} (read : readItem c t = .ok (item, rest)) :
    ∃ u, c :: t = u ++ rest ∧ ItemForm u item := by
  unfold readItem at read
  split at read
  · rename_i mark
    obtain ⟨rfl, free⟩ := readQuoted_eq_ok_iff.mp read
    exact ⟨quote item, by simp [quote, mark], .quoted free⟩
  · split at read
    · rename_i bare
      cases read
      refine ⟨c :: t.takeWhile isBareChar, by simp [List.takeWhile_append_dropWhile], .bare (List.cons_ne_nil _ _) ?_⟩
      exact List.forall_mem_cons.mpr ⟨bare, List.all_eq_true.mp List.all_takeWhile⟩
    · cases read

namespace ItemForm

variable {t item : Text}

theorem exists_head (form : ItemForm t item) : ∃ c rest, t = c :: rest ∧ isBlank c = false := by
  cases form with
  | quoted => exact ⟨'"', _, rfl, by decide⟩
  | bare nonempty letters =>
    obtain ⟨c, rest, rfl⟩ := List.exists_cons_of_ne_nil nonempty
    exact ⟨c, rest, rfl, isBlank_of_isBareChar (letters c List.mem_cons_self)⟩

/-- An item is read back if no bare character follows. -/
theorem readItem {c : Char} {rest : Text} (form : ItemForm (c :: rest) item) {u : Text}
    (stops : ∀ d ∈ u.head?, isBareChar d = false) : readItem c (rest ++ u) = .ok (item, u) := by
  rw [Filter.readItem]
  cases form with
  | quoted free => exact readQuoted_eq_ok_iff.mpr ⟨by simp, free⟩
  | bare _ letters =>
    have bare := letters c List.mem_cons_self
    obtain ⟨taken, dropped⟩ :=
      takeWhile_append_stop (fun d member => letters d (List.mem_cons_of_mem c member)) stops
    have unquoted : c ≠ '"' := ne_of_isBareChar bare (by decide +kernel)
    rw [if_neg unquoted, if_pos bare, taken, dropped]

/-- Reading items goes on behind the first one, with blanks or without. -/
theorem readItems {a b u : Text} (before : a.IsBlank) (form : ItemForm t item) (after : b.IsBlank)
    (stops : ∀ d ∈ u.head?, isBareChar d = false) (isFirst : Bool) :
    readItems isFirst (a ++ (t ++ (b ++ u))) =
      match Text.trimStart (b ++ u) with
      | [] => .ok [item]
      | d :: v =>
        if d = ',' then (Filter.readItems false v).map (item :: ·) else .error ⟨.unexpectedCharacter d, d :: v⟩ := by
  obtain ⟨c, rest, rfl, visible⟩ := form.exists_head
  have start := before.trimStart_append visible (rest ++ (b ++ u))
  have read := form.readItem (after.stops isBlank_of_isBareChar stops)
  rw [Filter.readItems]
  split
  · rename_i empty
    rw [List.cons_append, start] at empty
    cases empty
  · rename_i start'
    rw [List.cons_append, start] at start'
    cases start'
    split
    · simp_all
    · rename_i read'
      rw [read] at read'
      cases read'
      split <;> rename_i next <;> rw [next]

end ItemForm

theorem itemsForm_of_readItems {isFirst : Bool} {t : Text} {items : List Text}
    (read : readItems isFirst t = .ok items) : ItemsForm t items := by
  fun_induction readItems isFirst t generalizing items with
  | case1 | case2 | case5 => cases read
  | case3 isFirst t c u start item rest readItem next =>
    cases read
    obtain ⟨a, atT, before⟩ := Text.exists_trimStart t
    obtain ⟨v, atItem, form⟩ := exists_itemForm readItem
    obtain ⟨b, atRest, after⟩ := Text.exists_trimStart rest
    rw [next, List.append_nil] at atRest
    rw [atT, start, atItem, atRest]
    exact .last before form after
  | case4 isFirst t c u start item rest readItem v next ih =>
    obtain ⟨items, others, rfl⟩ := map_eq_ok_iff.mp read
    obtain ⟨a, atT, before⟩ := Text.exists_trimStart t
    obtain ⟨w, atItem, form⟩ := exists_itemForm readItem
    obtain ⟨b, atRest, after⟩ := Text.exists_trimStart rest
    rw [next] at atRest
    rw [atT, start, atItem, atRest]
    exact .next before form after (ih others)

theorem ItemsForm.readItems {t : Text} {items : List Text} (form : ItemsForm t items) (isFirst : Bool) :
    readItems isFirst t = .ok items := by
  induction form generalizing isFirst with
  | @last a t b item before form after =>
    have read := form.readItems before after (u := []) (by simp) isFirst
    rwa [List.append_nil, after.trimStart] at read
  | @next a t b u item items before form after _ ih =>
    have comma : ∀ d ∈ (',' :: u).head?, isBareChar d = false := by
      intro d first
      cases first
      decide +kernel
    rw [form.readItems before after comma, after.trimStart_append (by decide)]
    dsimp only
    rw [if_pos rfl, ih]
    rfl

theorem readItems_eq_ok_iff {isFirst : Bool} {t : Text} {items : List Text} :
    readItems isFirst t = .ok items ↔ ItemsForm t items :=
  ⟨itemsForm_of_readItems, fun form => form.readItems isFirst⟩

theorem valueForm_iff {t : Text} {value : RawValue} :
    ValueForm t value ↔ ∃ items, ItemsForm t items ∧ RawValue.ofItems items = value := by
  constructor
  · intro form
    cases form with
    | scalar form => exact ⟨_, form, rfl⟩
    | list form several =>
      refine ⟨_, form, ?_⟩
      unfold RawValue.ofItems
      split
      · simp at several
      · rfl
  · rintro ⟨items, form, rfl⟩
    match items, form with
    | [], form => nomatch form
    | [_], form => exact .scalar form
    | _ :: _ :: _, form => exact .list form (by simp)

end Filter

namespace Condition

theorem form_of_read {t : Text} {c : Condition} (read : Condition.read t = .ok c) : Form t c := by
  obtain ⟨a, atT, before⟩ := Text.exists_trimStart t
  unfold Condition.read at read
  rw [atT]
  split at read
  · rename_i u mark
    rw [mark]
    split at read
    · cases read
    · rename_i next nonempty
      cases read
      obtain ⟨b, atRest, after⟩ := Text.exists_trimStart (u.dropWhile isHashtagChar)
      rw [next, List.append_nil] at atRest
      have whole : u = u.takeWhile isHashtagChar ++ b := by rw [← atRest, List.takeWhile_append_dropWhile]
      have form := Form.hashtag before nonempty (List.all_eq_true.mp List.all_takeWhile) after
      rwa [← whole] at form
    · cases read
  · obtain ⟨⟨⟨path, op⟩, rest⟩, readField, read⟩ := bind_eq_ok_iff.mp read
    obtain ⟨u, atField, field⟩ := Filter.exists_fieldForm readField
    dsimp only at read
    split at read
    · rename_i after colon
      obtain ⟨items, value, pair⟩ := bind_eq_ok_iff.mp read
      cases pair
      obtain ⟨b, atRest, blank⟩ := Text.exists_trimStart rest
      rw [colon] at atRest
      rw [atField, atRest]
      exact .field before field blank (Filter.valueForm_iff.mpr ⟨items, Filter.readItems_eq_ok_iff.mp value, rfl⟩)
    · cases read

theorem Form.read {t : Text} {c : Condition} (form : Form t c) : Condition.read t = .ok c := by
  cases form with
  | @hashtag a name b before nonempty letters after =>
    have stops := after.stops (t := []) (fun letter => isBlank_of_isBareChar (isBareChar_of_isHashtagChar letter)) (by simp)
    rw [List.append_nil] at stops
    obtain ⟨taken, dropped⟩ := Filter.takeWhile_append_stop letters stops
    rw [Condition.read, before.trimStart_append (by decide)]
    obtain ⟨c, rest, rfl⟩ := List.exists_cons_of_ne_nil nonempty
    simp only [taken, dropped, after.trimStart]
  | @field a t b u path op value before field after value =>
    obtain ⟨items, listed, rfl⟩ := Filter.valueForm_iff.mp value
    have colon : ∀ c ∈ (':' :: u).head?, isIdentChar c = false := by
      intro c first
      cases first
      decide
    have read := field.readField
      (after.stops (fun letter => isBlank_of_isBareChar (isBareChar_of_isIdentChar letter)) colon)
    obtain ⟨c, rest, rfl, head⟩ := field.exists_head
    have first : isBlank c = false ∧ c ≠ '#' := by
      rcases head with rfl | letter
      · decide
      · have bare := isBareChar_of_isIdentChar letter
        exact ⟨isBlank_of_isBareChar bare, ne_of_isBareChar bare (by decide +kernel)⟩
    rw [List.cons_append] at read ⊢
    rw [Condition.read, before.trimStart_append first.1]
    split
    · rename_i mark
      exact absurd (List.cons.inj mark).1 first.2
    · rw [read, ok_bind]
      dsimp only
      rw [after.trimStart_append (by decide)]
      simp only [listed.readItems, ok_bind]
      rfl

theorem read_eq_ok_iff {t : Text} {c : Condition} : Condition.read t = .ok c ↔ Form t c :=
  ⟨form_of_read, Form.read⟩

/-- Where a clause starts matters for its faults alone. -/
theorem ofText?_eq_ok_iff {start : Nat} {text : Text} {c : Condition} :
    ofText? start text = .ok c ↔ Condition.read text = .ok c := by
  unfold ofText?
  split <;> simp_all

/-- A clause is read as a condition exactly if it spells that condition, and a clause that spells none is
refused as a whole. -/
theorem ofText?_grammar (start : Nat) (t : Text) :
    (∀ c, ofText? start t = .ok c ↔ Form t c) ∧
      ((∃ c, Form t c) ∨ ∃ position fault, ofText? start t = .error (.invalidExpression t position fault)) := by
  refine ⟨fun c => ofText?_eq_ok_iff.trans read_eq_ok_iff, ?_⟩
  cases result : Condition.read t with
  | ok c => exact Or.inl ⟨c, form_of_read result⟩
  | error stop => exact Or.inr ⟨_, stop.fault, by rw [ofText?, result]⟩

end Condition

end IssueQuery
