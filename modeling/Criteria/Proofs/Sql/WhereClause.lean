/-
  Criteria/Proofs/Sql/WhereClause.lean
  ====================================
  **The conditions of a list, joined and taken apart again.**  Each condition is
  rendered by itself and keeps its position, those without a clause drop out of
  the joined text, and what is left are groups: so a store that knows the literal
  rules of its dialect and counts parentheses finds the clauses again.
-/
import Criteria.Engine
import Criteria.Proofs.Sql.Nesting
import Criteria.Proofs.Sql.Outline

namespace Criteria

/-! ### Joining -/

def conjoin? : List String → Option String
  | [] => none
  | ts => some (" AND ".intercalate ts)

theorem conjoin?_of_ne_nil {ts : List String} (h : ts ≠ []) :
    conjoin? ts = some (" AND ".intercalate ts) := by
  cases ts with
  | nil => exact absurd rfl h
  | cons t ts => rfl

theorem conjoin?_eq_none_iff {ts : List String} : conjoin? ts = none ↔ ts = [] := by
  cases ts with
  | nil => exact iff_of_true rfl rfl
  | cons t ts => exact iff_of_false nofun nofun

/-- Joining part by part joins the same text, where parts that are empty drop out. -/
theorem conjoin?_flatten (tss : List (List String)) :
    conjoin? tss.flatten = conjoin? (tss.filterMap conjoin?) := by
  induction tss with
  | nil => rfl
  | cons ts tss ih =>
    by_cases hts : ts = []
    · subst hts
      exact ih
    · rw [List.flatten_cons, List.filterMap_cons_some (conjoin?_of_ne_nil hts)]
      by_cases hrest : tss.flatten = []
      · have hnone : tss.filterMap conjoin? = [] := by
          rw [hrest] at ih
          exact conjoin?_eq_none_iff.mp ih.symm
        rw [hrest, hnone, List.append_nil, conjoin?_of_ne_nil hts]
        simp [conjoin?]
      · have hsome : tss.filterMap conjoin? ≠ [] := by
          intro hnil
          rw [hnil] at ih
          exact hrest (conjoin?_eq_none_iff.mp ih)
        rw [conjoin?_of_ne_nil hrest, conjoin?_of_ne_nil hsome, Option.some.injEq] at ih
        rw [conjoin?_of_ne_nil (by simp [hts]), conjoin?_of_ne_nil (List.cons_ne_nil _ _),
          String.intercalate_append_of_ne_nil hts hrest, String.intercalate_cons_of_ne_nil hsome,
          ih]

theorem Fragments.conjunction?_eq (f : Fragments) : f.conjunction? = conjoin? f.clauses := by
  unfold conjunction? conjoin?
  cases f.clauses <;> rfl

theorem Fragments.entries_eq (f : Fragments) :
    f.entries = (List.range' 1 f.size).zip f.inOrder := by
  refine List.ext_getElem ?_ ?_
  · simp [entries, size]
  · intro i _ _
    simp [entries, Nat.add_comm]

/-! ### Fragments of an engine -/

namespace Engine

variable (e : Engine)

def clause? (c : Condition) : Option String := (e.renderer.renderOne .relational c).asSql?

theorem clauses_renderFor (cs : List Condition) :
    (e.renderFor .relational cs).clauses = cs.filterMap e.clause? := by
  simp only [renderFor, Renderer.render, Fragments.clauses, List.filterMap_map]
  rfl

theorem whereClause?_eq (cs : List Condition) :
    e.whereClause? cs = conjoin? (cs.filterMap e.clause?) := by
  rw [← clauses_renderFor]
  exact Fragments.conjunction?_eq _

theorem clause?_eq_some_iff {c : Condition} {s : String} :
    e.clause? c = some s ↔ c.toSql e.renderer.dialect = .sql s := by
  unfold clause? Renderer.renderOne
  cases c.toSql e.renderer.dialect <;> simp [Fragment.asSql?]

theorem clause?_eq_none_iff {c : Condition} :
    e.clause? c = none ↔ ∀ s, c.toSql e.renderer.dialect ≠ .sql s := by
  rw [Option.eq_none_iff_forall_ne_some]
  exact forall_congr' fun s => not_congr e.clause?_eq_some_iff

/-- The clause of a condition is a group if nothing in the column's name is taken for a literal or
    a parenthesis. -/
theorem isGroup_clause? {c : Condition} (hname : Sql.IsBare c.identifier.toList) {s : String}
    (h : e.clause? c = some s) : Sql.IsGroup e.renderer.dialect s.toList := by
  obtain ⟨n, q, _, hn, hq, rfl⟩ := Sql.toSql_eq_sql (e.clause?_eq_some_iff.mp h)
  have hcolumn : q.column = c.identifier := by
    rw [Sql.clauseOf?_column hq, (Condition.normalized_keeps hn).1]
  exact Sql.isGroup_text _ (hcolumn ▸ hname)

theorem whereClause?_eq_none_iff {cs : List Condition} :
    e.whereClause? cs = none ↔ ∀ c ∈ cs, ∀ s, c.toSql e.renderer.dialect ≠ .sql s := by
  rw [whereClause?_eq, conjoin?_eq_none_iff, List.filterMap_eq_nil_iff]
  exact forall₂_congr fun c _ => e.clause?_eq_none_iff

theorem cut_whereClause? {cs : List Condition} (hnames : ∀ c ∈ cs, Sql.IsBare c.identifier.toList)
    {w : String} (h : e.whereClause? cs = some w) :
    Sql.cut e.renderer.dialect w.toList = (cs.filterMap e.clause?).map String.toList := by
  rw [whereClause?_eq] at h
  have hne : cs.filterMap e.clause? ≠ [] := by
    intro hnil
    rw [hnil] at h
    exact nomatch h
  rw [conjoin?_of_ne_nil hne, Option.some.injEq] at h
  have hgroups : ∀ t ∈ (cs.filterMap e.clause?).map String.toList,
      Sql.IsGroup e.renderer.dialect t := by
    intro t ht
    obtain ⟨s, hs, rfl⟩ := List.mem_map.mp ht
    obtain ⟨c, hc, hclause⟩ := List.mem_filterMap.mp hs
    exact e.isGroup_clause? (hnames c hc) hclause
  rw [← h, String.toList_intercalate]
  exact Sql.cut_groups (by simpa using hne) hgroups

theorem whereClause?_flatten (parts : List (List Condition)) :
    e.whereClause? parts.flatten = conjoin? (parts.filterMap e.whereClause?) := by
  have hparts : parts.filterMap e.whereClause? =
      (parts.map fun cs => cs.filterMap e.clause?).filterMap conjoin? := by
    have hjoined : e.whereClause? = conjoin? ∘ fun cs => cs.filterMap e.clause? :=
      funext e.whereClause?_eq
    rw [List.filterMap_map, hjoined]
  rw [whereClause?_eq, hparts, List.filterMap_flatten, conjoin?_flatten]

/-- **A joined clause can be taken apart again.**  Every condition has its own fragment at its own
    position; there is a joined clause unless no condition has one; and the joined clause, cut at
    each ` AND ` that is code at depth zero, gives the clauses back in order, each one closed group.
    A list that is put together from parts has the joined clauses of those parts that have one,
    joined. -/
theorem whereClause_cut (cs : List Condition)
    (hnames : ∀ c ∈ cs, Sql.IsBare c.identifier.toList) :
    (e.renderFor .relational cs).entries =
      (List.range' 1 cs.length).zip (cs.map (e.renderer.renderOne .relational)) ∧
    (e.renderFor .relational cs).get? 0 = none ∧
    (∀ i, (e.renderFor .relational cs).get? (i + 1) =
      cs[i]?.map (e.renderer.renderOne .relational)) ∧
    (e.whereClause? cs = none ↔
      ∀ c ∈ cs, ∀ s, e.renderer.renderOne .relational c ≠ .sql s) ∧
    (∀ w, e.whereClause? cs = some w →
      Sql.cut e.renderer.dialect w.toList =
        (cs.filterMap fun c => (e.renderer.renderOne .relational c).asSql?).map String.toList) ∧
    (∀ c ∈ cs, ∀ s, e.renderer.renderOne .relational c = .sql s →
      Sql.IsGroup e.renderer.dialect s.toList) ∧
    ∀ parts : List (List Condition),
      e.whereClause? parts.flatten = conjoin? (parts.filterMap e.whereClause?) := by
  refine ⟨?_, rfl, ?_, ?_, ?_, ?_, ?_⟩
  · rw [Fragments.entries_eq]
    simp [renderFor, Renderer.render, Fragments.size]
  · intro i
    simp [renderFor, Renderer.render, Fragments.get?]
  · exact e.whereClause?_eq_none_iff
  · intro w hw
    exact e.cut_whereClause? hnames hw
  · intro c hc s hs
    exact e.isGroup_clause? (hnames c hc) (e.clause?_eq_some_iff.mpr hs)
  · exact e.whereClause?_flatten

/-- A backslash, a quote, parentheses and ` AND ` in an operand, a condition without a clause, and a
    denial of two tokens that is joined by `AND` itself. -/
theorem whereClause_cut_hostile :
    ∃ (e : Engine) (cs : List Condition) (w : String),
      (∀ c ∈ cs, Sql.IsBare c.identifier.toList) ∧ e.whereClause? cs = some w ∧
      w = "(name = 'x\\\\'') AND (y')" ++ " AND " ++
        "(NOT FIND_IN_SET('p)', tags) AND NOT FIND_IN_SET('q', tags))" ∧
      Sql.cut e.renderer.dialect w.toList = ["(name = 'x\\\\'') AND (y')".toList,
        "(NOT FIND_IN_SET('p)', tags) AND NOT FIND_IN_SET('q', tags))".toList] := by
  have hnames : ∀ c ∈ ([
      { identifier := "name", valueType := .text, operator := .is,
        operand := some (.text "x\\') AND (y") },
      { identifier := "body", valueType := .longText, operator := .contains,
        operand := some (.text "a") },
      { identifier := "tags", valueType := .commaSplit, operator := .notAny,
        operand := some (.text "p),q") }] : List Condition), Sql.IsBare c.identifier.toList := by
    intro c hc
    simp only [List.mem_cons, List.not_mem_nil, or_false] at hc
    rcases hc with rfl | rfl | rfl
    all_goals exact ⟨by decide, by decide, by decide⟩
  obtain ⟨_, _, _, _, hcut, _⟩ := whereClause_cut ⟨{}, .utc, .running, {}⟩ _ hnames
  refine ⟨⟨{}, .utc, .running, {}⟩, _, _, hnames, ?_, rfl, hcut _ ?_⟩
  all_goals
    rw [whereClause?_eq]
    rfl

end Engine

end Criteria
