import IssueQuery.Compile
import IssueQuery.Proofs.Success
import Mathlib.Data.List.Infix

namespace IssueQuery

namespace Pattern

/-- The parts of a regular expression for literal text: characters that stand for themselves, and the anchors. -/
inductive Atom where
  | textStart
  | char (c : Char)
  | textEnd

def Atom.render : Atom → Text
  | .textStart => ['^']
  | .char c => escapeChar c
  | .textEnd => ['$']

def atoms (p : Pattern) : List Atom :=
  (if p.fromStart then [.textStart] else []) ++ p.body.map .char ++ (if p.toEnd then [.textEnd] else [])

theorem render_eq_flatMap_atoms (p : Pattern) : p.render = p.atoms.flatMap Atom.render := by
  cases p with
  | mk fromStart body toEnd =>
    have literal : (body.map Atom.char).flatMap Atom.render = body.flatMap escapeChar := List.flatMap_map _ _ body
    cases fromStart <;> cases toEnd <;> simp [render, atoms, Atom.render, literal]

/-- Atoms match, one behind the other, from the place between `before` and `after` on. -/
def MatchesAt (before : Text) : List Atom → Text → Prop
  | [], _ => True
  | .textStart :: rest, after => before = [] ∧ MatchesAt before rest after
  | .char c :: rest, after => ∃ t, after = c :: t ∧ MatchesAt (before ++ [c]) rest t
  | .textEnd :: rest, after => after = [] ∧ MatchesAt before rest after

/-- Atoms match from some place of a text on. -/
def FoundIn (t : Text) (as : List Atom) : Prop := ∃ before after, t = before ++ after ∧ MatchesAt before as after

/-- What regular expressions are to an engine, with letters compared up to case or exactly: tests of texts, or
nothing if an expression does not build. -/
abbrev Engine := Bool → Text → Option (Text → Bool)

/-- An engine that builds the regular expression of every pattern, and takes escaped and other literal characters
for themselves and the anchors for the ends of the whole text. -/
def IsLiteral (engine : Engine) : Prop :=
  ∀ p : Pattern, ∃ test,
    engine false (p.atoms.flatMap Atom.render) = some test ∧ ∀ t, test t = true ↔ FoundIn t p.atoms

theorem matchesAt_chars {before after : Text} {body : Text} {as : List Atom} :
    MatchesAt before (body.map .char ++ as) after ↔ ∃ t, after = body ++ t ∧ MatchesAt (before ++ body) as t := by
  induction body generalizing before after with
  | nil => simp
  | cons c body ih =>
    rw [List.map_cons, List.cons_append, MatchesAt]
    constructor
    · rintro ⟨t, rfl, behind⟩
      obtain ⟨u, rfl, rest⟩ := ih.mp behind
      exact ⟨u, rfl, by simpa using rest⟩
    · rintro ⟨u, rfl, rest⟩
      exact ⟨body ++ u, rfl, ih.mpr ⟨u, rfl, by simpa using rest⟩⟩

section Places

variable (body t : Text)

theorem foundIn_anywhere : FoundIn t (atoms ⟨false, body, false⟩) ↔ body <:+: t := by
  constructor
  · rintro ⟨before, after, rfl, rest⟩
    obtain ⟨u, rfl, _⟩ := matchesAt_chars.mp rest
    exact ⟨before, u, List.append_assoc _ _ _⟩
  · rintro ⟨before, u, rfl⟩
    exact ⟨before, body ++ u, List.append_assoc _ _ _, matchesAt_chars.mpr ⟨u, rfl, trivial⟩⟩

theorem foundIn_start : FoundIn t (atoms ⟨true, body, false⟩) ↔ body <+: t := by
  constructor
  · rintro ⟨before, after, rfl, rfl, rest⟩
    obtain ⟨u, rfl, _⟩ := matchesAt_chars.mp rest
    exact ⟨u, rfl⟩
  · rintro ⟨u, rfl⟩
    exact ⟨[], body ++ u, rfl, rfl, matchesAt_chars.mpr ⟨u, rfl, trivial⟩⟩

theorem foundIn_end : FoundIn t (atoms ⟨false, body, true⟩) ↔ body <:+ t := by
  constructor
  · rintro ⟨before, after, rfl, rest⟩
    obtain ⟨u, rfl, rfl, _⟩ := matchesAt_chars.mp rest
    exact ⟨before, by rw [List.append_nil]⟩
  · rintro ⟨before, rfl⟩
    exact ⟨before, body, rfl, matchesAt_chars.mpr ⟨[], (List.append_nil body).symm, rfl, trivial⟩⟩

theorem foundIn_whole : FoundIn t (atoms ⟨true, body, true⟩) ↔ body = t := by
  constructor
  · rintro ⟨before, after, rfl, rfl, rest⟩
    obtain ⟨u, rfl, rfl, _⟩ := matchesAt_chars.mp rest
    exact (List.append_nil body).symm
  · rintro rfl
    exact ⟨[], body, rfl, rfl, matchesAt_chars.mpr ⟨[], (List.append_nil body).symm, rfl, trivial⟩⟩

end Places

theorem occursIn_iff {body t : Text} : occursIn body t = true ↔ body <:+: t := by
  induction t with
  | nil => rw [occursIn, List.isEmpty_iff, List.infix_nil]
  | cons c t ih => rw [occursIn, Bool.or_eq_true, List.isPrefixOf_iff_prefix, ih, List.infix_cons_iff]

/-- Testing a text for a pattern is matching its atoms. -/
theorem holds_iff_foundIn (p : Pattern) (t : Text) : p.holds false t = true ↔ FoundIn t p.atoms := by
  rw [holds, if_neg Bool.false_ne_true]
  cases p with
  | mk fromStart body toEnd =>
    cases fromStart <;> cases toEnd
    · rw [foundIn_anywhere]
      exact occursIn_iff
    · rw [foundIn_end]
      exact List.isSuffixOf_iff_suffix
    · rw [foundIn_start]
      exact List.isPrefixOf_iff_prefix
    · rw [foundIn_whole]
      exact beq_iff_eq

/-- Every character of a pattern comes back as itself, also a backslash in front of the last anchor. -/
theorem readBody?_escaped (body : Text) (toEnd : Bool) :
    readBody? (body.flatMap escapeChar ++ if toEnd then ['$'] else []) = some (body, toEnd) := by
  induction body with
  | nil => cases toEnd <;> rfl
  | cons c body ih =>
    rw [List.flatMap_cons, List.append_assoc, escapeChar]
    cases special : isSpecial c with
    | true =>
      rw [if_pos rfl, List.cons_append, List.singleton_append, readBody?, if_pos special, ih]
      rfl
    | false =>
      have other {d : Char} (escaped : isSpecial d = true) : c ≠ d := by
        rintro rfl
        rw [special] at escaped
        cases escaped
      rw [if_neg Bool.false_ne_true, List.singleton_append, readBody?, if_neg (by simp [special]), ih]
      · rfl
      · exact fun last => absurd last (other (by decide))
      · exact fun _ _ slash => absurd slash (other (by decide))

/-- The text of a pattern starts with an anchor only if the pattern does. -/
theorem ofText?_rendered (p : Pattern) : ofText? p.render = some p := by
  cases p with
  | mk fromStart body toEnd =>
    have read := readBody?_escaped body toEnd
    cases fromStart with
    | true =>
      rw [render, if_pos rfl, List.append_assoc, List.singleton_append, ofText?, read]
      rfl
    | false =>
      rw [render, if_neg Bool.false_ne_true, List.nil_append, ofText?, read]
      · rfl
      · intro t eq
        cases body with
        | nil => cases toEnd <;> cases eq
        | cons c body =>
          rw [List.flatMap_cons, escapeChar] at eq
          split at eq
          · cases eq
          · rename_i plain
            cases eq
            exact plain (by decide)

/-- Patterns as an engine. -/
def engine : Engine := fun ignoreCase expression => (ofText? expression).map (holds ignoreCase)

theorem engine_isLiteral : IsLiteral engine :=
  fun p => ⟨p.holds false, by rw [engine, ← render_eq_flatMap_atoms, ofText?_rendered]; rfl, p.holds_iff_foundIn⟩

end Pattern

namespace Comparison

/-- Whether a document satisfies the comparison, if regular expressions are left to an engine. -/
def holdsBy (engine : Pattern.Engine) (c : Comparison) (doc : Json) : Bool :=
  match c.op, c.value with
  | .regex ignoreCase, .string expression =>
    match engine ignoreCase expression with
    | some test => (doc.valuesAt c.path).any fun
      | .string t => test t
      | _ => false
    | none => false
  | .regex _, _ => false
  | _, _ => c.holds doc

theorem holdsBy_engine (c : Comparison) (doc : Json) : c.holdsBy Pattern.engine doc = c.holds doc := by
  obtain ⟨path, op, value⟩ := c
  cases op with
  | regex ignoreCase =>
    cases value with
    | string expression =>
      rw [holdsBy, holds]
      simp only [Pattern.engine, anyText]
      cases Pattern.ofText? expression <;> rfl
    | int | float | bool | instant | list => rfl
  | _ => rfl

/-- Only texts are tested, and one of them is enough. -/
theorem holdsBy_regex_iff {engine : Pattern.Engine} {ignoreCase : Bool} {expression : Text} {test : Text → Bool}
    (built : engine ignoreCase expression = some test) (path : List Text) (doc : Json) :
    holdsBy engine ⟨path, .regex ignoreCase, .string expression⟩ doc = true ↔
      ∃ t, .string t ∈ doc.valuesAt path ∧ test t = true := by
  simp only [holdsBy, built, List.any_eq_true]
  constructor
  · rintro ⟨j, member, tested⟩
    cases j with
    | string t => exact ⟨t, member, tested⟩
    | _ => cases tested
  · rintro ⟨t, member, tested⟩
    exact ⟨.string t, member, tested⟩

end Comparison

/-- Where the operators on text look for a text in another. -/
def Operator.Finds : Operator → Text → Text → Prop
  | .contains, raw, t => raw <:+: t
  | .startsWith, raw, t => raw <+: t
  | .endsWith, raw, t => raw <:+ t
  | _, _, _ => False

theorem Operator.foundIn_pattern {op : Operator} (looks : op = .contains ∨ op = .startsWith ∨ op = .endsWith)
    (raw t : Text) : Pattern.FoundIn t (op.pattern raw).atoms ↔ op.Finds raw t := by
  rcases looks with rfl | rfl | rfl
  · exact Pattern.foundIn_anywhere raw t
  · exact Pattern.foundIn_start raw t
  · exact Pattern.foundIn_end raw t

namespace Scope

/-- A filter that looks for a text compares with the text as a pattern. -/
theorem compileFilter_pattern {s : Scope} {f : Filter} {target : Target} {op : Operator} {raw : Text}
    (operator : f.effectiveOperator = op) (looks : op = .contains ∨ op = .startsWith ∨ op = .endsWith)
    (leads : s.resolve f.path = .ok target) (isText : target.type = .string) (single : f.value.items = [raw]) :
    s.compileFilter f = .ok ⟨target.path, .regex false, .string (op.pattern raw).render⟩ := by
  have value : compileValue target op f.value = .ok (.string (op.pattern raw).render) := by
    rw [compileValue, single]
    rcases looks with rfl | rfl | rfl <;> rfl
  have supported : target.type.supports op = true := by
    rw [isText]
    rcases looks with rfl | rfl | rfl <;> rfl
  have compared : op.compareOp = .regex false := by
    rcases looks with rfl | rfl | rfl <;> rfl
  rw [compileFilter, leads, ok_bind, operator, if_pos supported, value, compared]
  rfl

/-- A filter that looks for a text finds it as it is written, whatever its characters mean in a regular expression:
a document satisfies it if the text stands anywhere in, at the start or at the end of some text at the place of the
field. An engine for regular expressions only has to take literal characters and the anchors for what they are. -/
theorem finds_of_compileFilter (s : Scope) {f : Filter} {target : Target} {op : Operator} {raw : Text}
    (operator : f.effectiveOperator = op) (looks : op = .contains ∨ op = .startsWith ∨ op = .endsWith)
    (leads : s.resolve f.path = .ok target) (isText : target.type = .string) (single : f.value.items = [raw]) :
    ∃ c, s.compileFilter f = .ok c ∧ ∀ doc,
      (c.holds doc = true ↔ ∃ t, .string t ∈ doc.valuesAt target.path ∧ op.Finds raw t) ∧
        ∀ engine, Pattern.IsLiteral engine →
          (c.holdsBy engine doc = true ↔ ∃ t, .string t ∈ doc.valuesAt target.path ∧ op.Finds raw t) := by
  refine ⟨_, compileFilter_pattern operator looks leads isText single, fun doc => ?_⟩
  have found {engine : Pattern.Engine} (literal : Pattern.IsLiteral engine) :
      Comparison.holdsBy engine ⟨target.path, .regex false, .string (op.pattern raw).render⟩ doc = true ↔
        ∃ t, .string t ∈ doc.valuesAt target.path ∧ op.Finds raw t := by
    obtain ⟨test, built, tests⟩ := literal (op.pattern raw)
    rw [← Pattern.render_eq_flatMap_atoms] at built
    simp only [Comparison.holdsBy_regex_iff built, tests, Operator.foundIn_pattern looks]
  refine ⟨?_, fun engine => found⟩
  rw [← Comparison.holdsBy_engine]
  exact found Pattern.engine_isLiteral

/-- An anchor, a dot and a backslash at the end of the text, looked for in a part of the objects in a list. -/
theorem finds_of_compileFilter_escaped :
    let code : FieldDef := ⟨"code".toList, .string, none⟩
    let s : Scope := ⟨{ fields := [⟨"Meta".toList, .list (.object [code]), some "G1".toList⟩] }, none⟩
    let f : Filter := ⟨["meta".toList, "code".toList], some .endsWith, .list ["^a.b\\".toList]⟩
    let doc : Json := .object [("custom_fields".toList, .object [("G1".toList,
      .array [.object [("code".toList, .int 7)], .object [("code".toList, .string "-^a.b\\".toList)]])])]
    ∃ c, s.compileFilter f = .ok c ∧ c.value = .string "\\^a\\.b\\\\$".toList ∧
      c.holds doc = true ∧ c.holdsBy Pattern.engine doc = true := by
  intro code s f doc
  have compiled : s.compileFilter f =
      .ok ⟨["custom_fields".toList, "G1".toList, "code".toList], .regex false, .string "\\^a\\.b\\\\$".toList⟩ := rfl
  obtain ⟨c, same, finds⟩ := finds_of_compileFilter s (f := f) rfl (Or.inr (Or.inr rfl)) rfl rfl rfl
  cases same.symm.trans compiled
  have found : ∃ t, .string t ∈ doc.valuesAt ["custom_fields".toList, "G1".toList, "code".toList] ∧
      Operator.endsWith.Finds "^a.b\\".toList t :=
    ⟨"-^a.b\\".toList, .tail _ (.head _), ['-'], rfl⟩
  exact ⟨_, compiled, rfl, (finds doc).1.mpr found, ((finds doc).2 _ Pattern.engine_isLiteral).mpr found⟩

end Scope

end IssueQuery
