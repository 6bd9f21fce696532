import DocSql.Proofs.Query.Numbering
import DocSql.Proofs.Sql.Operands

/-!
The pattern of a query reads as the query: its clauses all hold, and its groups
join their queries as their keys say. What a query means is a tree over the
conditions of its operators, which are leaves here whatever they are made of.
-/
namespace DocSql

open Sql (Filter Formula IsConjunction IsOperand Predicate Truth numbered)

namespace Sql.Formula

mutual

/-- The tree over final texts, where the parameters of the leaves take the
positions from `next` on. -/
def placed (next : Nat) : Formula Predicate → Formula String
  | always => always
  | leaf p => leaf (number next p.template)
  | not f => not (placed next f)
  | and fs => and (placedAll next fs)
  | or fs => or (placedAll next fs)

def placedAll (next : Nat) : List (Formula Predicate) → List (Formula String)
  | [] => []
  | f :: rest =>
    placed next f :: placedAll (next + (Predicate.paramsAll f.leaves).length) rest

end

end Sql.Formula

def Group.formula (kind : Group) (parts : List (Formula Predicate)) : Formula Predicate :=
  match kind with
  | .or => .or parts
  | .and => .and parts
  | .nor => .not (.or parts)

/-- What a clause on a field asks for: all of its operators, or nothing where
it is skipped. -/
def Target.tree (scope : Scope) (t : Target) (condition : Condition) :
    Except Error (Formula Predicate) := do
  if t.skips condition then return .always
  return .and ((← t.conditions scope condition).map .leaf)

namespace Query

mutual

def clauseTree (scope : Scope) : Clause → Except Error (Formula Predicate)
  | .field name condition => Target.tree scope ⟨name, scope.schema.field? name⟩ condition
  | .group kind queries => do return kind.formula (← groupTrees scope queries)

def clauseTrees (scope : Scope) : List Clause → Except Error (List (Formula Predicate))
  | [] => .ok []
  | clause :: rest => do return (← clauseTree scope clause) :: (← clauseTrees scope rest)

def groupTrees (scope : Scope) : List (List Clause) → Except Error (List (Formula Predicate))
  | [] => .ok []
  | query :: rest => do
    return .and (← clauseTrees scope query) :: (← groupTrees scope rest)

end

def tree (scope : Scope) (query : Query) : Except Error (Formula Predicate) := do
  return .and (← clauseTrees scope query)

end Query

namespace Sql.Formula

theorem placedAll_append (next : Nat) (fs gs : List (Formula Predicate)) :
    placedAll next (fs ++ gs) =
      placedAll next fs ++ placedAll (next + (Predicate.paramsAll (leavesAll fs)).length) gs := by
  induction fs generalizing next with
  | nil => rfl
  | cons f rest ih =>
    simp only [List.cons_append, placedAll, leavesAll, Predicate.paramsAll_append,
      List.length_append, ih, Nat.add_assoc]

end Sql.Formula

namespace Query

/-- Conditions next to each other that together say what the trees say. -/
structure Conveys (found : List Predicate) (trees : List (Formula Predicate)) : Prop where
  plain : ∀ p ∈ found, p.IsPlain
  params : Predicate.paramsAll found = Predicate.paramsAll (Formula.leavesAll trees)
  reads : ∀ next, ∃ fs : List (Formula String),
    List.Forall₂ IsOperand (Predicate.numberedTexts next found) (fs.map (Formula.bind Sql.read)) ∧
      (Formula.and fs).Agrees (.and (Formula.placedAll next trees))

namespace Conveys

variable {found more : List Predicate} {trees others : List (Formula Predicate)}

theorem nil : Conveys [] [] := by
  refine ⟨by simp, rfl, fun next => ⟨[], .nil, .refl _⟩⟩

theorem append (h : Conveys found trees) (hm : Conveys more others) :
    Conveys (found ++ more) (trees ++ others) := by
  refine ⟨?_, ?_, fun next => ?_⟩
  · intro p hp
    rcases List.mem_append.1 hp with hp | hp
    · exact h.plain p hp
    · exact hm.plain p hp
  · rw [Predicate.paramsAll_append, Formula.leavesAll_append, Predicate.paramsAll_append,
      h.params, hm.params]
  · obtain ⟨fs, hfs, hagree⟩ := h.reads next
    obtain ⟨gs, hgs, hagree'⟩ := hm.reads (next + (Predicate.paramsAll found).length)
    refine ⟨fs ++ gs, ?_, ?_⟩
    · rw [Predicate.numberedTexts_append, List.map_append]
      exact List.rel_append hfs hgs
    · rw [Formula.placedAll_append, ← h.params]
      exact hagree.append hagree'

theorem operand {p : Predicate} {tree : Formula Predicate} (hp : p.IsPlain)
    (hparams : p.params = Predicate.paramsAll tree.leaves)
    (h : ∀ next, ∃ f : Formula String,
      IsOperand (numbered none next p.template.toList) (f.bind Sql.read) ∧
        f.Agrees (tree.placed next)) : Conveys [p] [tree] := by
  refine ⟨by simpa using hp, ?_, fun next => ?_⟩
  · simpa [Predicate.paramsAll, Formula.leavesAll] using hparams
  · obtain ⟨f, hf, hagree⟩ := h next
    refine ⟨[f], .cons hf .nil, ?_⟩
    simp only [Formula.placedAll]
    exact .and (.cons hagree .nil)

theorem fragments (h : ∀ p ∈ found, p.IsFragment) : Conveys found (found.map .leaf) := by
  induction found with
  | nil => exact .nil
  | cons p rest ih =>
    have hp := h p List.mem_cons_self
    have hrest := ih fun q hq => h q (List.mem_cons_of_mem p hq)
    have hfirst : Conveys [p] [.leaf p] := by
      refine .operand hp.isPlain ?_ fun next => ⟨.leaf (Sql.number next p.template), ?_, ?_⟩
      · simp [Formula.leaves, Predicate.paramsAll]
      · simp only [Formula.bind]
        exact hp.reads next
      · simp only [Formula.placed]
        exact .refl _
    exact hfirst.append hrest

theorem clause (h : Conveys found trees) : Conveys found [.and trees] := by
  refine ⟨h.plain, ?_, fun next => ?_⟩
  · rw [h.params]
    simp only [Formula.leavesAll, Formula.leaves, List.append_nil]
  · obtain ⟨fs, hfs, hagree⟩ := h.reads next
    refine ⟨fs, hfs, hagree.trans ?_⟩
    simp only [Formula.placedAll, Formula.placed]
    exact .alone _

theorem skipped : Conveys [] [.always] :=
  ⟨by simp, rfl, fun _ => ⟨[], .nil, rfl, fun _ => rfl⟩⟩

theorem empty (h : Conveys [] trees) (next : Nat) :
    (Formula.always : Formula String).Agrees (.and (Formula.placedAll next trees)) := by
  obtain ⟨fs, hfs, hagree⟩ := h.reads next
  have hnone : fs = [] := by
    cases fs with
    | nil => rfl
    | cons f rest => cases hfs
  subst hnone
  have hempty : (Formula.always : Formula String).Agrees (.and []) := ⟨rfl, fun _ => rfl⟩
  exact hempty.trans hagree

end Conveys

/-- A condition of operands with `AND` between them that says what the tree says. -/
structure Says (p : Predicate) (tree : Formula Predicate) : Prop where
  plain : p.IsPlain
  params : p.params = Predicate.paramsAll tree.leaves
  reads : ∀ next, ∃ fs : List (Formula String),
    IsConjunction (numbered none next p.template.toList) (fs.map (Formula.bind Sql.read)) ∧
      (Formula.and fs).Agrees (tree.placed next)

theorem Conveys.conjunction {found : List Predicate} {trees : List (Formula Predicate)}
    (h : Conveys found trees) : Says (conjunction found) (.and trees) := by
  cases found with
  | nil =>
    -- The constant stands for an empty query and reads as no leaf.
    refine ⟨trivial, h.params, fun next => ⟨[.always], ?_, ?_⟩⟩
    · have htext := (Predicate.always_reads next).isConjunction
      simpa only [Query.conjunction, List.isEmpty_nil, if_true, List.map_cons, List.map_nil,
        Formula.bind] using htext
    · have hempty : (Formula.and [.always] : Formula String).Agrees .always :=
        ⟨rfl, fun _ => rfl⟩
      simp only [Formula.placed]
      exact hempty.trans (h.empty next)
  | cons p rest =>
    refine ⟨Predicate.allPlain_iff.2 h.plain, ?_, fun next => ?_⟩
    · have hparams := h.params
      simpa [Query.conjunction, Predicate.params, Formula.leaves] using hparams
    · obtain ⟨fs, hfs, hagree⟩ := h.reads next
      refine ⟨fs, ?_, hagree⟩
      have htexts : List.Forall₂ IsConjunction (Predicate.numberedTexts next (p :: rest))
          ((fs.map (Formula.bind Sql.read)).map fun f => [f]) := by
        rw [List.forall₂_map_right_iff]
        exact hfs.imp fun _ _ hf => hf.isConjunction
      have hjoined := Sql.isConjunction_intercalate htexts
        (Predicate.numberedTexts_ne_nil (by simp) next)
      rw [← List.flatMap_def, List.flatMap_singleton'] at hjoined
      simp only [Query.conjunction, List.isEmpty_cons, Bool.false_eq_true, if_false,
        Predicate.template]
      rw [Predicate.numbered_intercalate rfl h.plain]
      exact hjoined

/-- The conditions of the queries of a group, in order. -/
structure SaysAll (parts : List Predicate) (trees : List (Formula Predicate)) : Prop where
  plain : ∀ p ∈ parts, p.IsPlain
  params : Predicate.paramsAll parts = Predicate.paramsAll (Formula.leavesAll trees)
  reads : ∀ next, ∃ fss : List (List (Formula String)),
    List.Forall₂ IsConjunction (Predicate.numberedTexts next parts)
        (fss.map (List.map (Formula.bind Sql.read))) ∧
      List.Forall₂ Formula.Agrees (fss.map Formula.and) (Formula.placedAll next trees)

namespace SaysAll

variable {parts : List Predicate} {trees : List (Formula Predicate)}

theorem nil : SaysAll [] [] := ⟨by simp, rfl, fun _ => ⟨[], .nil, .nil⟩⟩

theorem cons {p : Predicate} {tree : Formula Predicate} (hp : Says p tree)
    (h : SaysAll parts trees) : SaysAll (p :: parts) (tree :: trees) := by
  refine ⟨?_, ?_, fun next => ?_⟩
  · intro q hq
    rcases List.mem_cons.1 hq with rfl | hq
    · exact hp.plain
    · exact h.plain q hq
  · rw [Predicate.paramsAll, Formula.leavesAll, Predicate.paramsAll_append, hp.params, h.params]
  · obtain ⟨fs, hfs, hagree⟩ := hp.reads next
    obtain ⟨fss, hfss, hagrees⟩ := h.reads (next + p.params.length)
    refine ⟨fs :: fss, .cons hfs hfss, ?_⟩
    rw [hp.params] at hagrees
    exact .cons hagree hagrees

theorem disjunction (h : SaysAll parts trees) (hne : parts ≠ []) (next : Nat) :
    ∃ f : Formula String,
      IsOperand (numbered none next (Predicate.paren (.or parts)).template.toList)
          (f.bind Sql.read) ∧ f.Agrees (.or (Formula.placedAll next trees)) := by
  obtain ⟨fss, hfss, hagrees⟩ := h.reads next
  refine ⟨.any (fss.map Formula.all), ?_, (Formula.Agrees.any_or _).trans (.or ?_)⟩
  · have hread := Predicate.or_isOperand h.plain hne hfss
    simpa only [Formula.bind_any, List.map_map, Function.comp_def, Formula.bind_all] using hread
  · rw [List.forall₂_map_left_iff] at hagrees ⊢
    exact hagrees.imp fun fs _ hfs => (Formula.Agrees.all_and fs).trans hfs

theorem conjunction (h : SaysAll parts trees) (hne : parts ≠ []) (next : Nat) :
    ∃ f : Formula String,
      IsOperand (numbered none next (Predicate.paren (.and parts)).template.toList)
          (f.bind Sql.read) ∧ f.Agrees (.and (Formula.placedAll next trees)) := by
  obtain ⟨fss, hfss, hagrees⟩ := h.reads next
  -- Only here do the queries of a group run together: each has its own `AND`s.
  refine ⟨.all fss.flatten, ?_, ?_⟩
  · have hread := Predicate.and_isOperand h.plain hne hfss
    rw [Formula.bind_all, List.map_flatten]
    exact hread
  · have hflat := Formula.Agrees.flatten fss
    exact (Formula.Agrees.all_and _).trans (hflat.trans (.and hagrees))

end SaysAll

theorem SaysAll.group {parts : List Predicate} {trees : List (Formula Predicate)}
    (h : SaysAll parts trees) (hne : parts ≠ []) (kind : Group) :
    Conveys [kind.predicate parts] [kind.formula trees] := by
  have hplain := Predicate.allPlain_iff.2 h.plain
  have hparams := h.params
  cases kind with
  | or =>
    refine .operand hplain ?_ fun next => ?_
    · simpa only [Group.predicate, Group.formula, Predicate.params, Formula.leaves] using hparams
    · simpa only [Group.predicate, Group.formula, Formula.placed] using h.disjunction hne next
  | and =>
    refine .operand hplain ?_ fun next => ?_
    · simpa only [Group.predicate, Group.formula, Predicate.params, Formula.leaves] using hparams
    · simpa only [Group.predicate, Group.formula, Formula.placed] using h.conjunction hne next
  | nor =>
    refine .operand hplain ?_ fun next => ?_
    · simpa only [Group.predicate, Group.formula, Predicate.params, Formula.leaves] using hparams
    · obtain ⟨f, hf, hagree⟩ := h.disjunction hne next
      refine ⟨.not f, ?_, ?_⟩
      · rw [Formula.bind]
        exact Predicate.not_isOperand hf
      · simp only [Group.formula, Formula.placed]
        exact hagree.not

theorem clause_conveys (scope : Scope) (t : Target) (condition : Condition) :
    Yields (t.clause scope condition) fun found =>
      ∃ tree, t.tree scope condition = .ok tree ∧ Conveys found [tree] := by
  unfold Target.clause Target.tree
  split
  · exact .pure ⟨.always, rfl, .skipped⟩
  · refine (t.conditions_yields scope condition).made.bind fun found hfound => ?_
    obtain ⟨hmade, hfinds⟩ := hfound
    split
    · exact .throw rfl
    · refine .pure ⟨_, ?_, (Conveys.fragments hfinds.1).clause⟩
      rw [hmade]
      rfl

mutual

theorem clausePredicates_conveys (scope : Scope) : ∀ clause : Clause, HasParts clause →
    Yields (clausePredicates scope clause) fun found =>
      ∃ tree, clauseTree scope clause = .ok tree ∧ Conveys found [tree]
  | .field name condition, _ => by
    simp only [clausePredicates, clauseTree]
    exact clause_conveys scope _ condition
  | .group kind queries, h => by
    simp only [clausePredicates, clauseTree]
    refine (groupPredicates_conveys scope queries h.2).bind fun parts hparts => .pure ?_
    obtain ⟨trees, htrees, hlength, hsays⟩ := hparts
    rw [htrees]
    have hne : parts ≠ [] := by
      rintro rfl
      exact h.1 (List.length_eq_zero_iff.1 hlength)
    exact ⟨kind.formula trees, rfl, hsays.group hne kind⟩

theorem predicates_conveys (scope : Scope) : ∀ query : List Clause, ClausesHaveParts query →
    Yields (predicates scope query) fun found =>
      ∃ trees, clauseTrees scope query = .ok trees ∧ Conveys found trees
  | [], _ => by
    simp only [predicates, clauseTrees]
    exact .ok ⟨[], rfl, .nil⟩
  | clause :: rest, h => by
    simp only [predicates, clauseTrees]
    refine (clausePredicates_conveys scope clause h.1).bind fun found hfound => ?_
    refine (predicates_conveys scope rest h.2).bind fun more hmore => .pure ?_
    obtain ⟨tree, htree, hfirst⟩ := hfound
    obtain ⟨trees, htrees, hrest⟩ := hmore
    rw [htree, htrees]
    exact ⟨tree :: trees, rfl, hfirst.append hrest⟩

theorem groupPredicates_conveys (scope : Scope) : ∀ queries : List (List Clause),
    GroupsHaveParts queries → Yields (groupPredicates scope queries) fun parts =>
      ∃ trees, groupTrees scope queries = .ok trees ∧ queries.length = parts.length ∧
        SaysAll parts trees
  | [], _ => by
    simp only [groupPredicates, groupTrees]
    exact .ok ⟨[], rfl, rfl, .nil⟩
  | query :: rest, h => by
    simp only [groupPredicates, groupTrees]
    refine (predicates_conveys scope query h.1).bind fun found hfound => ?_
    refine (groupPredicates_conveys scope rest h.2).bind fun parts hparts => .pure ?_
    obtain ⟨trees, htrees, hfirst⟩ := hfound
    obtain ⟨others, hothers, hlength, hrest⟩ := hparts
    rw [htrees, hothers]
    refine ⟨.and trees :: others, rfl, ?_, .cons hfirst.conjunction hrest⟩
    rw [List.length_cons, List.length_cons, hlength]

end

theorem Conveys.pattern_reads {found : List Predicate} {trees : List (Formula Predicate)}
    (h : Conveys found trees) (next : Nat) : ∃ f : Formula String,
      Sql.read (Filter.patternOf next found) = f.bind Sql.read ∧
        f.Agrees (.and (Formula.placedAll next trees)) := by
  unfold Filter.patternOf
  cases found with
  | nil => exact ⟨.always, rfl, h.empty next⟩
  | cons p rest =>
    obtain ⟨fs, hfs, hagree⟩ := h.conjunction.reads next
    have htext : (Sql.number next (Predicate.and (p :: rest)).template).toList =
        numbered none next (Query.conjunction (p :: rest)).template.toList := by
      rw [Sql.number, String.toList_ofList]
      rfl
    rw [← htext] at hfs
    simp only [Formula.placed] at hagree
    refine ⟨.all fs, ?_, (Formula.Agrees.all_and fs).trans hagree⟩
    rw [List.isEmpty_cons, if_neg Bool.false_ne_true, hfs.isDisjunction.read_eq, Formula.bind_all]
    rfl

theorem IsFilter.asks {scope : Scope} {query : Query} {first : Nat} {filter : Filter}
    {params : List Datum} (hq : ClausesHaveParts query)
    (h : IsFilter scope query first filter params) :
    ∃ asked, tree scope query = .ok asked ∧ params = Predicate.paramsAll asked.leaves ∧
      ∃ f : Formula String, Sql.read filter.pattern = f.bind Sql.read ∧
        f.Agrees (asked.placed first) := by
  obtain ⟨found, hfound, -, rfl, rfl⟩ := h
  obtain ⟨trees, htrees, hconveys⟩ := (predicates_conveys scope query hq).result hfound
  have htree : tree scope query = .ok (.and trees) := by
    rw [tree, htrees]
    rfl
  obtain ⟨f, hread, hagree⟩ := hconveys.pattern_reads first
  refine ⟨.and trees, htree, ?_, f, hread, ?_⟩
  · simpa only [Formula.leaves] using hconveys.params
  · simpa only [Formula.placed] using hagree

/-- The pattern of a query reads, by the precedence of SQL, as a formula over
the texts of its operators, each read on its own. That formula has them in the
order of the query and the truth value of its tree, whatever values they have. -/
theorem compile_reads (scope : Scope) (query : Json) (first : Nat) :
    Yields (compile scope query first) fun (filter, params) =>
      ∃ q asked, ofJson query = .ok q ∧ tree scope q = .ok asked ∧
        params = Predicate.paramsAll asked.leaves ∧
        (∃ f : Formula String, Sql.read filter.pattern = f.bind Sql.read ∧
          f.Agrees (asked.placed (max first 1))) ∧
        ∀ v, (Sql.read filter.pattern).eval v =
          (asked.placed (max first 1)).eval fun text => (Sql.read text).eval v := by
  refine (compile_yields scope query first).mono fun (filter, params) h => ?_
  obtain ⟨q, hq, hfilter⟩ := h
  obtain ⟨asked, hasked, hparams, f, hread, hagree⟩ :=
    hfilter.asks ((ofJson_yields query).result hq)
  refine ⟨q, asked, hq, hasked, hparams, ⟨f, hread, hagree⟩, fun v => ?_⟩
  rw [hread, Formula.eval_bind, hagree.value]

end Query
end DocSql
