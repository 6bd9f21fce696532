import DocSql.Proofs.Pattern.Stripping
import DocSql.Proofs.Query.Spellings

/-!
Queries for quoted text. The text of a run is bound as a literal unless a pass
over the pattern takes part of it for something else: the option `x` takes out
blanks and comments, and a last dollar sign counts as an anchor where the run
has no end mark. Main statement: `Query.compile_quoted_iff`.
-/
namespace DocSql

open Pattern (Tight bound endMark ofLiteral quoteMark)
open Sql (Filter Predicate)

namespace Operator

def AcceptsOptions (options : String) : Prop := ∀ c ∈ options.toList, c ∈ ['i', 'm', 'x', 's']

instance (options : String) : Decidable (AcceptsOptions options) :=
  List.decidableBAll (· ∈ ['i', 'm', 'x', 's']) options.toList

def badOptions (options : String) : Error :=
  .invalidQuery ("bad $options value for query: " ++ (Json.str options).text)

def patternCondition (pattern options : String) : Entries Json :=
  [("$options", .str options), ("$regex", .str pattern)]

theorem ofJson_pattern (pattern options : String) : ofJson (patternCondition pattern options) =
    if AcceptsOptions options then .ok [regex pattern options]
    else .error (badOptions options) := by
  have haccepts : options.toList.all ['i', 'm', 'x', 's'].contains = true ↔
      AcceptsOptions options := by
    simp only [List.all_eq_true, List.contains_iff_mem, AcceptsOptions]
  have hread : readRegex (patternCondition pattern options) (.str pattern) =
      if options.toList.all ['i', 'm', 'x', 's'].contains then .ok (regex pattern options)
      else .error (badOptions options) := rfl
  simp only [haccepts] at hread
  change ([readRegex (patternCondition pattern options) (.str pattern)].mapM id >>= _) = _
  rw [List.mapM_cons, id, hread]
  split
  · rfl
  · rfl

end Operator

namespace Query

variable (scope : Scope) {name options : String} {text : List Char}

def forPattern (name options : String) (pattern : List Char) : Json :=
  .obj [(name, .obj (Operator.patternCondition (.ofList pattern) options))]

/-- A query compiles, and the one parameter that it binds is a pattern. -/
def BindsPattern (first : Nat) (query : Json) (pattern : List Char) : Prop :=
  ∃ filter, compile scope query first = .ok (filter, [.text (.ofList pattern)])

theorem forPattern_binds (hn : Clause.IsFieldName name) (ho : Operator.AcceptsOptions options)
    (first : Nat) (pattern : List Char) :
    BindsPattern scope first (forPattern name options pattern) (bound options.toList pattern) := by
  let found := (scope.target name).matchesPattern (.ofList pattern) options
  have hread : Condition.ofJson (.obj (Operator.patternCondition (.ofList pattern) options)) =
      .ok (.operators [.regex (.ofList pattern) options]) := by
    change Condition.operators <$> Operator.ofJson _ = _
    rw [Operator.ofJson_pattern, if_pos ho]
    rfl
  have hclause : (scope.target name).clause scope (.operators [.regex (.ofList pattern) options]) =
      .ok [found] :=
    Target.clause_single (.ok found) (by simp [Target.skips]) rfl
  have hparams : Predicate.paramsAll [found] = [.text (.ofList (bound options.toList pattern))] := by
    change ((scope.target name).matchesPattern (.ofList pattern) options).params ++ [] = _
    unfold Target.matchesPattern
    rw [List.append_nil, Target.compare_params, String.toList_ofList]
    rfl
  refine ⟨⟨Filter.patternOf (max first 1) [found], Predicate.orderingsAll (max first 1) [found]⟩, ?_⟩
  rw [forPattern, compile_single scope hn, hread, ← hparams]
  change ((scope.target name).clause scope _ >>= _) = _
  rw [hclause]
  rfl

theorem forPattern_refused (hn : Clause.IsFieldName name) (ho : ¬ Operator.AcceptsOptions options)
    (first : Nat) (pattern : List Char) :
    compile scope (forPattern name options pattern) first =
      .error (Operator.badOptions options) := by
  rw [forPattern, compile_single scope hn]
  change (Condition.operators <$> Operator.ofJson _ >>= _) = _
  rw [Operator.ofJson_pattern, if_neg ho]
  rfl

theorem bindsPattern_iff (hn : Clause.IsFieldName name) {first : Nat}
    {pattern other : List Char} :
    BindsPattern scope first (forPattern name options pattern) other ↔
      Operator.AcceptsOptions options ∧ bound options.toList pattern = other := by
  constructor
  · rintro ⟨filter, hfilter⟩
    have ho : Operator.AcceptsOptions options := by
      by_contra ho
      rw [forPattern_refused scope hn ho] at hfilter
      cases hfilter
    obtain ⟨_, hbound⟩ := forPattern_binds scope hn ho first pattern
    rw [hfilter] at hbound
    have hparams := (Prod.mk.inj (Except.ok.inj hbound)).2
    exact ⟨ho, (String.ofList_injective (Datum.text.inj (List.cons.inj hparams).1)).symm⟩
  · rintro ⟨ho, rfl⟩
    exact forPattern_binds scope hn ho first pattern

theorem exists_bindsPattern_iff (hn : Clause.IsFieldName name) (first : Nat)
    (pattern : List Char) :
    (∃ other, BindsPattern scope first (forPattern name options pattern) other) ↔
      Operator.AcceptsOptions options := by
  simp only [bindsPattern_iff scope hn, exists_and_left, exists_eq', and_true]

/-- Text between the marks of a run, with its end mark or up to the end of the
pattern, compiles under all accepted options and no others. With an end mark the
literal of the text is bound if and only if the option `x` has nothing to take out
of it. Without one it may not end with a dollar sign either, which is bound as an
anchor. -/
theorem compile_quoted_iff (hn : Clause.IsFieldName name) (ht : ¬ endMark <:+: text)
    (options : String) (first : Nat) :
    let ended := forPattern name options (quoteMark ++ text ++ endMark)
    let unended := forPattern name options (quoteMark ++ text)
    let kept := 'x' ∈ options.toList → Tight text
    ((∃ pattern, BindsPattern scope first ended pattern) ↔ Operator.AcceptsOptions options) ∧
    ((∃ pattern, BindsPattern scope first unended pattern) ↔ Operator.AcceptsOptions options) ∧
    (Operator.AcceptsOptions options →
      (BindsPattern scope first ended (ofLiteral text) ↔ kept) ∧
      (BindsPattern scope first unended (ofLiteral text) ↔ text.getLast? ≠ some '$' ∧ kept) ∧
      (text.getLast? = some '$' → kept →
        BindsPattern scope first unended (ofLiteral text.dropLast ++ ['$']))) := by
  intro ended unended kept
  have hkept : kept ↔ (options.toList.contains 'x' → Tight text) := by
    rw [List.contains_iff_mem]
  refine ⟨exists_bindsPattern_iff scope hn first _, exists_bindsPattern_iff scope hn first _,
    fun ho => ⟨?_, ?_, fun hlast hk => ?_⟩⟩
  · rw [bindsPattern_iff scope hn, and_iff_right ho, Pattern.bound_ended_iff ht, hkept]
  · rw [bindsPattern_iff scope hn, and_iff_right ho, Pattern.bound_open_iff ht, hkept]
  · rw [bindsPattern_iff scope hn, Pattern.bound_open ht (hkept.1 hk), if_pos hlast]
    exact ⟨ho, rfl⟩

/-- The blank is escaped by a backslash of the text, and its last backslash comes
before the end mark; a dollar sign in its place is bound as an anchor. -/
theorem blank_behind_backslash_kept :
    let scope := Scope.ofSchema { className := "Post", fields := [("title", .string)] } ⟨0, 0⟩
    let text := "a\\ .\\".toList
    let priced := "a\\ $".toList
    let ended := forPattern "title" "ix" "\\Qa\\ .\\\\E".toList
    let unended := forPattern "title" "ix" "\\Qa\\ .\\".toList
    (Clause.IsFieldName "title" ∧ Operator.AcceptsOptions "ix" ∧ ¬ endMark <:+: text ∧
      ¬ endMark <:+: priced ∧ Tight text ∧ Tight priced) ∧
    BindsPattern scope 1 ended "a\\\\ \\.\\\\".toList ∧
    BindsPattern scope 1 unended "a\\\\ \\.\\\\".toList ∧
    BindsPattern scope 1 (forPattern "title" "ix" "\\Qa\\ $".toList) "a\\\\ $".toList := by
  intro scope text priced ended unended
  have hname : Clause.IsFieldName "title" := by decide +kernel
  have hoptions : Operator.AcceptsOptions "ix" := by decide
  have hopen : ¬ endMark <:+: text := by decide
  have hpriced : ¬ endMark <:+: priced := by decide
  have htight : Tight text :=
    .plain (by decide) (by decide) (.escape (.plain (by decide) (by decide) .last))
  have hfirm : Tight priced :=
    .plain (by decide) (by decide) (.escape (.plain (by decide) (by decide) .nil))
  have hliteral : ofLiteral text = "a\\\\ \\.\\\\".toList := by decide +kernel
  have hanchored : ofLiteral priced.dropLast ++ ['$'] = "a\\\\ $".toList := by decide +kernel
  obtain ⟨-, -, htext⟩ := compile_quoted_iff scope hname hopen "ix" 1
  obtain ⟨hended, hunended, -⟩ := htext hoptions
  obtain ⟨-, -, hdollar⟩ := (compile_quoted_iff scope hname hpriced "ix" 1).2.2 hoptions
  rw [hliteral] at hended hunended
  rw [hanchored] at hdollar
  exact ⟨⟨hname, hoptions, hopen, hpriced, htight, hfirm⟩, hended.2 fun _ => htight,
    hunended.2 ⟨by decide, fun _ => htight⟩, hdollar rfl fun _ => hfirm⟩

/-- A dollar sign in a run is bound as an anchor, and a blank in one is taken out. -/
theorem quoted_dollar_unescaped :
    let scope := Scope.ofSchema { className := "Post", fields := [("title", .string)] } ⟨0, 0⟩
    (Operator.AcceptsOptions "" ∧ ¬ endMark <:+: "a$".toList ∧
      BindsPattern scope 1 (forPattern "title" "" (quoteMark ++ "a$".toList)) "a$".toList ∧
      ¬ BindsPattern scope 1 (forPattern "title" "" (quoteMark ++ "a$".toList))
        (ofLiteral "a$".toList)) ∧
    (Operator.AcceptsOptions "x" ∧ ¬ endMark <:+: "a b".toList ∧
      BindsPattern scope 1 (forPattern "title" "x" (quoteMark ++ "a b".toList ++ endMark))
        "ab".toList ∧
      ¬ BindsPattern scope 1 (forPattern "title" "x" (quoteMark ++ "a b".toList ++ endMark))
        (ofLiteral "a b".toList)) := by
  intro scope
  have hname : Clause.IsFieldName "title" := by decide +kernel
  have hplain : Operator.AcceptsOptions "" := by decide
  have hspread : Operator.AcceptsOptions "x" := by decide
  refine ⟨⟨hplain, by decide, ?_, ?_⟩, hspread, by decide, ?_, ?_⟩
  · rw [bindsPattern_iff scope hname]
    exact ⟨hplain, by decide +kernel⟩
  · rw [bindsPattern_iff scope hname, and_iff_right hplain]
    decide +kernel
  · rw [bindsPattern_iff scope hname]
    exact ⟨hspread, by decide +kernel⟩
  · rw [bindsPattern_iff scope hname, and_iff_right hspread]
    decide +kernel

end Query
end DocSql
