/-
  Criteria/Proofs/Regex.lean
  ==========================
  **What is read of regular expressions.**  The readers of sets and of expressions go by
  a number of steps.  No step gives back what it has used up, so that the steps are
  always enough: what is read is what the relations `ReadsSet` and `Draft.Reads` say,
  which count none (`takeSet?_eq_some_iff`, `read?_eq_some_iff`).  A text without marks
  is an expression that can be matched (`isWritten_of_plain`).
-/
import Criteria.Regex.Reading
import Mathlib.Tactic.SplitIfs

namespace Criteria.Regex

/-! ### What is left of a text -/

theorem length_dropSpace_le (steps : Nat) (cs : List Char) :
    (dropSpace steps cs).length ≤ cs.length := by
  induction steps generalizing cs with
  | zero => cases cs <;> exact Nat.le_refl _
  | succ s ih =>
    cases cs with
    | nil => exact Nat.le_refl _
    | cons c cs =>
      rw [dropSpace]
      split_ifs
      · exact Nat.le_succ_of_le (ih cs)
      · have hline := ih ((cs.dropWhile (· ≠ '\n')).drop 1)
        have hdrop := (List.dropWhile_sublist (· ≠ '\n') (l := cs)).length_le
        rw [List.length_drop] at hline
        rw [List.length_cons]
        omega
      · exact Nat.le_refl _

theorem length_unspaced_le (spaced : Bool) (cs : List Char) :
    (unspaced spaced cs).length ≤ cs.length := by
  unfold unspaced
  split_ifs
  · exact length_dropSpace_le _ _
  · exact Nat.le_refl _

theorem length_of_goOn? {spaced : Bool} {cs rest : List Char} (h : goOn? spaced cs = some rest) :
    rest.length ≤ cs.length := by
  unfold goOn? at h
  simp only [Option.ite_none_left_eq_some, Option.some.injEq] at h
  rw [← h.2]
  exact length_unspaced_le spaced cs

theorem length_of_takeHex? {spaced : Bool} {digits value n : Nat} {cs rest : List Char}
    (h : takeHex? spaced digits value cs = some (n, rest)) : rest.length ≤ cs.length := by
  induction digits generalizing value cs with
  | zero =>
    rw [takeHex?, Option.some.injEq, Prod.mk.injEq] at h
    exact Nat.le_of_eq (congrArg List.length h.2.symm)
  | succ k ih =>
    cases cs with
    | nil => exact nomatch h
    | cons c cs =>
      obtain ⟨d, -, h⟩ := Option.bind_eq_some_iff.mp h
      have hspace := length_unspaced_le spaced cs
      have hrest := ih h
      rw [List.length_cons]
      omega

theorem length_of_takeEscape? {spaced : Bool} {a : Atom} {cs rest : List Char}
    (h : takeEscape? spaced cs = some (a, rest)) : rest.length < cs.length := by
  have hnumbered : ∀ {digits : Nat} {cs : List Char},
      takeNumbered? spaced digits cs = some (a, rest) → rest.length ≤ cs.length := by
    intro digits cs h
    obtain ⟨⟨n, rest'⟩, hhex, h⟩ := Option.bind_eq_some_iff.mp h
    obtain ⟨c, -, h⟩ := Option.map_eq_some_iff.mp h
    obtain rfl : rest' = rest := (Prod.mk.inj h).2
    exact Nat.le_trans (length_of_takeHex? hhex) (length_unspaced_le spaced cs)
  cases cs with
  | nil => exact nomatch h
  | cons c cs =>
    rw [takeEscape?] at h
    rw [List.length_cons, Nat.lt_succ_iff]
    split_ifs at h
    · exact hnumbered h
    · exact hnumbered h
    · exact hnumbered h
    · obtain ⟨b, -, h⟩ := Option.map_eq_some_iff.mp h
      exact Nat.le_of_eq (congrArg List.length (Prod.mk.inj h).2.symm)

theorem length_of_takeMember? {spaced : Bool} {a : Atom} {cs rest : List Char}
    (h : takeMember? spaced cs = some (a, rest)) : rest.length < cs.length := by
  unfold takeMember? at h
  split at h
  · exact nomatch h
  · exact Nat.lt_succ_of_lt (length_of_takeEscape? h)
  · rw [Option.some.injEq, Prod.mk.injEq] at h
    rw [h.2, List.length_cons]
    exact Nat.lt_succ_self _

theorem length_of_takeRange? {spaced : Bool} {s : CharSet} {cs rest : List Char}
    (h : takeRange? spaced cs = some (s, rest)) : rest.length < cs.length := by
  simp only [takeRange?, Option.bind_eq_bind, Option.bind_eq_some_iff, Prod.exists] at h
  obtain ⟨a, front, hmember, mark, hgo, h⟩ := h
  have hfront := length_of_takeMember? hmember
  have hmark := length_of_goOn? hgo
  split at h
  · next after =>
    split_ifs at h
    · obtain ⟨_, -, h⟩ := Option.bind_eq_some_iff.mp h
      obtain rfl := (Prod.mk.inj (Option.some.inj h)).2
      omega
    · obtain ⟨next, hnext, h⟩ := Option.bind_eq_some_iff.mp h
      obtain ⟨⟨b, last⟩, hlast, h⟩ := Option.bind_eq_some_iff.mp h
      have hsecond := length_of_takeMember? hlast
      have hafter := length_of_goOn? hnext
      rw [List.length_cons] at hmark
      split at h
      · rw [Option.ite_none_right_eq_some] at h
        have hrest : last = rest := (Prod.mk.inj (Option.some.inj h.2)).2
        rw [← hrest]
        omega
      · exact nomatch h
  · obtain ⟨_, -, h⟩ := Option.bind_eq_some_iff.mp h
    obtain rfl := (Prod.mk.inj (Option.some.inj h)).2
    omega

/-! ### Sets -/

theorem length_of_takeHyphens? {spaced : Bool} {steps : Nat} {r r' : List CharSet}
    {cs rest : List Char} (h : takeHyphens? spaced steps r cs = some (r', rest)) :
    rest.length ≤ cs.length := by
  induction steps generalizing r cs with
  | zero => exact nomatch h
  | succ s ih =>
    unfold takeHyphens? at h
    split at h
    · next after =>
      obtain ⟨next, hnext, h⟩ := Option.bind_eq_some_iff.mp h
      have hafter := length_of_goOn? hnext
      have hrest := ih h
      rw [List.length_cons]
      omega
    · exact Nat.le_of_eq (congrArg List.length (Prod.mk.inj (Option.some.inj h)).2.symm)

theorem length_of_takeFirst? {spaced : Bool} {r : List CharSet} {cs rest : List Char}
    (h : takeFirst? spaced cs = some (r, rest)) : rest.length ≤ cs.length := by
  obtain ⟨⟨r', mark⟩, hhyphens, h⟩ := Option.bind_eq_some_iff.mp h
  have hmark := length_of_takeHyphens? hhyphens
  simp only at h
  split_ifs at h
  · obtain ⟨last, hlast, h⟩ := Option.map_eq_some_iff.mp h
    have hlast' := length_of_goOn? hlast
    rw [List.length_drop] at hlast'
    rw [← (Prod.mk.inj h).2]
    omega
  · rw [← (Prod.mk.inj (Option.some.inj h)).2]
    exact hmark

theorem length_of_takeOpening? {spaced negated : Bool} {r : List CharSet} {cs rest : List Char}
    (h : takeOpening? spaced cs = some (negated, r, rest)) : rest.length ≤ cs.length := by
  obtain ⟨first, hfirst, h⟩ := Option.bind_eq_some_iff.mp h
  obtain ⟨⟨r', last⟩, hlast, h⟩ := Option.map_eq_some_iff.mp h
  obtain ⟨second, hsecond, hlast⟩ := Option.bind_eq_some_iff.mp hlast
  have hfirst' := length_of_goOn? hfirst
  have hlast' := length_of_takeFirst? hlast
  have hsecond' : second.length ≤ first.length := by
    split_ifs at hsecond
    · have hrest := length_of_goOn? hsecond
      rw [List.length_drop] at hrest
      omega
    · exact Nat.le_of_eq (congrArg List.length (Option.some.inj hsecond).symm)
  rw [← (Prod.mk.inj (Prod.mk.inj h).2).2]
  omega

theorem length_of_takeNamed? {s : CharSet} {cs rest : List Char}
    (h : takeNamed? cs = some (s, rest)) : rest.length < cs.length := by
  unfold takeNamed? at h
  split at h
  · next after =>
    rw [Option.ite_none_right_eq_some] at h
    rw [← (Prod.mk.inj (Option.some.inj h.2)).2, List.length_drop, List.length_cons]
    split_ifs
    · rw [List.length_drop]
      omega
    · omega
  · exact nomatch h

/-- A set uses up its closing bracket at least. -/
theorem length_of_takeSet? {spaced : Bool} {steps : Nat} {left : Option CharSet}
    {r : List CharSet} {set : CharSet} {cs rest : List Char}
    (h : takeSet? spaced steps left r cs = some (set, rest)) : rest.length < cs.length := by
  induction steps generalizing left r set cs rest with
  | zero => exact nomatch h
  | succ s ih =>
    have hspace := length_unspaced_le spaced cs
    unfold takeSet? at h
    split at h
    · exact nomatch h
    · next after hcs =>
      rw [hcs, List.length_cons] at hspace
      have hrest : after = rest := (Prod.mk.inj (Option.some.inj h)).2
      rw [← hrest]
      omega
    · next after hcs =>
      rw [hcs, List.length_cons] at hspace
      split at h
      · next set' inner hnamed =>
        have hinner := length_of_takeNamed? hnamed
        have hrest := ih h
        omega
      · obtain ⟨⟨negated, first, inner⟩, hopening, h⟩ := Option.bind_eq_some_iff.mp h
        obtain ⟨⟨set', outer⟩, hset, h⟩ := Option.bind_eq_some_iff.mp h
        have hinner := length_of_takeOpening? hopening
        have houter := ih hset
        have hrest := ih h
        omega
    · split_ifs at h
      · have hrest := ih h
        rw [List.length_drop] at hrest
        omega
      · obtain ⟨⟨set', after'⟩, hrange, h⟩ := Option.bind_eq_some_iff.mp h
        have hafter := length_of_takeRange? hrange
        have hrest := ih h
        omega

theorem length_of_isOperator {cs : List Char} (h : isOperator cs = true) : 2 ≤ cs.length := by
  unfold isOperator at h
  split at h
  · simp only [List.length_cons]
    omega
  · exact nomatch h

/-- What a set is read of: member by member up to its closing bracket. -/
inductive ReadsSet (spaced : Bool) :
    Option CharSet → List CharSet → List Char → CharSet → List Char → Prop where
  | close {left : Option CharSet} {r : List CharSet} {cs rest : List Char}
      (hcs : unspaced spaced cs = ']' :: rest) :
      ReadsSet spaced left r cs (CharSet.joined left r) rest
  | named {left : Option CharSet} {r : List CharSet} {cs after inner rest : List Char}
      {member set : CharSet} (hcs : unspaced spaced cs = '[' :: after)
      (hmember : takeNamed? after = some (member, inner))
      (hrest : ReadsSet spaced left (member :: r) inner set rest) :
      ReadsSet spaced left r cs set rest
  | nested {left : Option CharSet} {r first : List CharSet} {cs after inner outer rest : List Char}
      {negated : Bool} {member set : CharSet} (hcs : unspaced spaced cs = '[' :: after)
      (hnone : takeNamed? after = none)
      (hopening : takeOpening? spaced after = some (negated, first, inner))
      (hmember : ReadsSet spaced none first inner member outer)
      (hrest : ReadsSet spaced left (.bracket negated member :: r) outer set rest) :
      ReadsSet spaced left r cs set rest
  | combined {left : Option CharSet} {r : List CharSet} {cs rest : List Char} {set : CharSet}
      (hcs : isOperator (unspaced spaced cs) = true)
      (hrest : ReadsSet spaced (some (CharSet.joined left r)) [] ((unspaced spaced cs).drop 2)
        set rest) :
      ReadsSet spaced left r cs set rest
  | range {left : Option CharSet} {r : List CharSet} {cs after rest : List Char}
      {member set : CharSet} (hmark : ∀ c ∈ (unspaced spaced cs).head?, c ≠ ']' ∧ c ≠ '[')
      (hoperator : isOperator (unspaced spaced cs) = false)
      (hmember : takeRange? spaced (unspaced spaced cs) = some (member, after))
      (hrest : ReadsSet spaced left (member :: r) after set rest) :
      ReadsSet spaced left r cs set rest

theorem head?_of_isOperator {cs : List Char} (h : isOperator cs = true) :
    ∀ c ∈ cs.head?, c ≠ ']' ∧ c ≠ '[' := by
  unfold isOperator at h
  split at h
  · next c d _ =>
    intro e he
    obtain rfl : c = e := Option.some.inj he
    constructor
    · rintro rfl
      simp at h
    · rintro rfl
      simp at h
  · exact nomatch h

/-- What follows where a set does not end and no other one starts. -/
theorem takeSet?_member {spaced : Bool} {s : Nat} (left : Option CharSet) (r : List CharSet)
    {cs : List Char} (hne : unspaced spaced cs ≠ [])
    (hmark : ∀ c ∈ (unspaced spaced cs).head?, c ≠ ']' ∧ c ≠ '[') :
    takeSet? spaced (s + 1) left r cs =
      if isOperator (unspaced spaced cs) then
        takeSet? spaced s (some (CharSet.joined left r)) [] ((unspaced spaced cs).drop 2)
      else (takeRange? spaced (unspaced spaced cs)).bind fun (set, cs) =>
        takeSet? spaced s left (set :: r) cs := by
  rw [takeSet?]
  split
  · next h => exact absurd h hne
  · next h => exact absurd rfl (hmark ']' (by rw [h]; rfl)).1
  · next h => exact absurd rfl (hmark '[' (by rw [h]; rfl)).2
  · rfl

/-- Whatever the number of steps, a set that is read is what the relation says. -/
theorem ReadsSet.of_takeSet? {spaced : Bool} {steps : Nat} {left : Option CharSet}
    {r : List CharSet} {set : CharSet} {cs rest : List Char}
    (h : takeSet? spaced steps left r cs = some (set, rest)) :
    ReadsSet spaced left r cs set rest := by
  induction steps generalizing left r set cs rest with
  | zero => exact nomatch h
  | succ s ih =>
    by_cases hne : unspaced spaced cs = []
    · rw [takeSet?, hne] at h
      exact nomatch h
    by_cases hclose : ∃ after, unspaced spaced cs = ']' :: after
    · obtain ⟨after, hcs⟩ := hclose
      simp only [takeSet?, hcs, Option.some.injEq, Prod.mk.injEq] at h
      rw [← h.1, ← h.2]
      exact .close hcs
    by_cases hopen : ∃ after, unspaced spaced cs = '[' :: after
    · obtain ⟨after, hcs⟩ := hopen
      simp only [takeSet?, hcs] at h
      cases hnamed : takeNamed? after with
      | some found =>
        rw [hnamed] at h
        exact .named hcs hnamed (ih h)
      | none =>
        rw [hnamed] at h
        obtain ⟨⟨negated, first, inner⟩, hopening, h⟩ := Option.bind_eq_some_iff.mp h
        obtain ⟨⟨member, outer⟩, hmember, h⟩ := Option.bind_eq_some_iff.mp h
        exact .nested hcs hnamed hopening (ih hmember) (ih h)
    have hmark : ∀ c ∈ (unspaced spaced cs).head?, c ≠ ']' ∧ c ≠ '[' := by
      intro c hc
      obtain ⟨after, hcs⟩ := List.head?_eq_some_iff.mp hc
      constructor
      · rintro rfl
        exact hclose ⟨after, hcs⟩
      · rintro rfl
        exact hopen ⟨after, hcs⟩
    rw [takeSet?_member left r hne hmark] at h
    split_ifs at h with hoperator
    · exact .combined hoperator (ih h)
    · obtain ⟨⟨member, after⟩, hmember, h⟩ := Option.bind_eq_some_iff.mp h
      exact .range hmark (by simpa using hoperator) hmember (ih h)

/-- Every member uses a character up at least, so more steps than characters are enough. -/
theorem ReadsSet.takeSet?_eq {spaced : Bool} {steps : Nat} {left : Option CharSet}
    {r : List CharSet} {set : CharSet} {cs rest : List Char}
    (h : ReadsSet spaced left r cs set rest) (hsteps : cs.length < steps) :
    takeSet? spaced steps left r cs = some (set, rest) := by
  induction h generalizing steps with
  | close hcs =>
    obtain ⟨s, rfl⟩ := Nat.exists_eq_succ_of_ne_zero (Nat.ne_zero_of_lt hsteps)
    simp only [takeSet?, hcs]
  | @named left r cs after inner rest member set hcs hmember hrest ih =>
    obtain ⟨s, rfl⟩ := Nat.exists_eq_succ_of_ne_zero (Nat.ne_zero_of_lt hsteps)
    have hspace := length_unspaced_le spaced cs
    rw [hcs, List.length_cons] at hspace
    have hinner := length_of_takeNamed? hmember
    simp only [takeSet?, hcs, hmember]
    exact ih (by omega)
  | @nested left r first cs after inner outer rest negated member set hcs hnone hopening hmember
      hrest ihmember ih =>
    obtain ⟨s, rfl⟩ := Nat.exists_eq_succ_of_ne_zero (Nat.ne_zero_of_lt hsteps)
    have hspace := length_unspaced_le spaced cs
    rw [hcs, List.length_cons] at hspace
    have hinner := length_of_takeOpening? hopening
    have hmember' : takeSet? spaced s none first inner = some (member, outer) :=
      ihmember (by omega)
    have houter := length_of_takeSet? hmember'
    simp only [takeSet?, hcs, hnone, hopening, Option.bind_some, hmember']
    exact ih (by omega)
  | @combined left r cs rest set hcs hrest ih =>
    obtain ⟨s, rfl⟩ := Nat.exists_eq_succ_of_ne_zero (Nat.ne_zero_of_lt hsteps)
    have hspace := length_unspaced_le spaced cs
    have htwo := length_of_isOperator hcs
    have hdrop := List.length_drop (l := unspaced spaced cs) (i := 2)
    have hne : unspaced spaced cs ≠ [] := List.length_pos_iff.mp (by omega)
    rw [takeSet?_member left r hne (head?_of_isOperator hcs), if_pos hcs]
    exact ih (by omega)
  | @range left r cs after rest member set hmark hoperator hmember hrest ih =>
    obtain ⟨s, rfl⟩ := Nat.exists_eq_succ_of_ne_zero (Nat.ne_zero_of_lt hsteps)
    have hspace := length_unspaced_le spaced cs
    have hafter := length_of_takeRange? hmember
    have hne : unspaced spaced cs ≠ [] := List.length_pos_iff.mp (by omega)
    rw [takeSet?_member left r hne hmark, if_neg (by simp [hoperator]), hmember]
    exact ih (by omega)

/-- **No set is too long to be read.** -/
theorem takeSet?_eq_some_iff {spaced : Bool} {steps : Nat} {left : Option CharSet}
    {r : List CharSet} {set : CharSet} {cs rest : List Char} (hsteps : cs.length < steps) :
    takeSet? spaced steps left r cs = some (set, rest) ↔ ReadsSet spaced left r cs set rest :=
  ⟨ReadsSet.of_takeSet?, fun h => h.takeSet?_eq hsteps⟩

/-! ### Groups -/

theorem length_of_takeName? {o : Opening} {cs rest : List Char}
    (h : takeName? cs = some (o, rest)) : rest.length ≤ cs.length := by
  rw [takeName?, Option.ite_none_right_eq_some] at h
  rw [← (Prod.mk.inj (Option.some.inj h.2)).2, List.length_drop]
  exact Nat.sub_le _ _

theorem length_of_takeFlags? {o : Opening} {cs rest : List Char}
    (h : takeFlags? cs = some (o, rest)) : rest.length < cs.length := by
  obtain ⟨c, -, h⟩ := Option.bind_eq_some_iff.mp h
  have hdrop := List.length_drop (l := cs)
    (i := (cs.takeWhile fun c => c ≠ ':' ∧ c ≠ ')').length)
  split at h
  · next hrest =>
    rw [hrest, List.length_cons] at hdrop
    rw [← (Prod.mk.inj (Option.some.inj h)).2]
    omega
  · next hrest =>
    rw [hrest, List.length_cons] at hdrop
    rw [Option.ite_none_left_eq_some] at h
    rw [← (Prod.mk.inj (Option.some.inj h.2)).2]
    omega
  · exact nomatch h

theorem length_of_takeGroup? {o : Opening} {cs rest : List Char}
    (h : takeGroup? cs = some (o, rest)) : rest.length ≤ cs.length := by
  unfold takeGroup? at h
  split at h
  · have hname := length_of_takeName? h
    simp only [List.length_cons]
    omega
  · have hname := length_of_takeName? h
    simp only [List.length_cons]
    omega
  · have hflags := length_of_takeFlags? h
    rw [List.length_cons]
    omega
  · exact Nat.le_of_eq (congrArg List.length (Prod.mk.inj (Option.some.inj h)).2.symm)

/-! ### Expressions -/

namespace Draft

variable {d d' : Draft}

theorem length_of_open {cs : List Char} (h : d.open cs = some d') :
    d'.rest.length ≤ cs.length := by
  obtain ⟨⟨o, rest⟩, hgroup, h⟩ := Option.bind_eq_some_iff.mp h
  have hspace := length_unspaced_le d.spaced cs
  have hrest := length_of_takeGroup? hgroup
  cases o with
  | change c =>
    rw [← Option.some.inj h]
    exact Nat.le_trans hrest hspace
  | group c =>
    rw [← Option.some.inj h]
    exact Nat.le_trans hrest hspace
  | named name =>
    simp only [Option.ite_none_left_eq_some, Option.some.injEq] at h
    rw [← h.2]
    exact Nat.le_trans hrest hspace

theorem length_of_repeatLast {cs : List Char} (h : d.repeatLast cs = some d') :
    d'.rest.length ≤ cs.length := by
  unfold repeatLast at h
  split at h
  · exact nomatch h
  · exact nomatch h
  · exact nomatch h
  · rw [← Option.some.inj h]
    simp only
    split_ifs
    · rw [List.length_drop]
      omega
    · exact Nat.le_refl _

/-- **A step uses up its character**, and gives nothing back. -/
theorem length_of_step {c : Char} {cs : List Char} (h : d.step c cs = some d') :
    d'.rest.length ≤ cs.length := by
  unfold step at h
  split_ifs at h
  · exact length_of_open h
  · unfold close at h
    split at h
    · exact nomatch h
    · obtain rfl := Option.some.inj h
      exact Nat.le_refl _
  · obtain rfl := Option.some.inj h
    exact Nat.le_refl _
  · obtain ⟨⟨negated, first, inner⟩, hopening, h⟩ := Option.bind_eq_some_iff.mp h
    obtain ⟨⟨set, rest⟩, hset, rfl⟩ := Option.map_eq_some_iff.mp h
    have hinner := length_of_takeOpening? hopening
    have hrest := length_of_takeSet? hset
    simp only [push]
    omega
  · exact length_of_repeatLast h
  · obtain ⟨⟨a, rest⟩, hescape, rfl⟩ := Option.map_eq_some_iff.mp h
    exact Nat.le_of_lt (length_of_takeEscape? hescape)
  · obtain rfl := Option.some.inj h
    exact Nat.le_refl _

/-- What an expression is read of: step by step to the end of the text, where no group is open. -/
inductive Reads : Draft → Regex → Prop where
  | done {d : Draft} (hrest : unspaced d.spaced d.rest = []) (houter : d.outer = []) :
      Reads d (ofBranches d.branches d.parts)
  | step {d d' : Draft} {r : Regex} {c : Char} {cs : List Char}
      (hrest : unspaced d.spaced d.rest = c :: cs) (hstep : d.step c cs = some d')
      (hreads : Reads d' r) : Reads d r

theorem run_eq_some_iff {steps : Nat} {r : Regex} (hsteps : d.rest.length < steps) :
    d.run steps = some r ↔ d.Reads r := by
  induction steps generalizing d with
  | zero => exact absurd hsteps (Nat.not_lt_zero _)
  | succ s ih =>
    have hspace := length_unspaced_le d.spaced d.rest
    constructor
    · intro h
      unfold run at h
      split at h
      · next hrest =>
        rw [Option.ite_none_right_eq_some, List.isEmpty_iff, Option.some.injEq] at h
        rw [← h.2]
        exact .done hrest h.1
      · next c cs hrest =>
        obtain ⟨d', hstep, h⟩ := Option.bind_eq_some_iff.mp h
        have hleft := length_of_step hstep
        rw [hrest, List.length_cons] at hspace
        exact .step hrest hstep ((ih (by omega)).mp h)
    · intro h
      unfold run
      cases h with
      | done hrest houter => simp only [hrest, houter, List.isEmpty_nil, if_true]
      | step hrest hstep hreads =>
        have hleft := length_of_step hstep
        rw [hrest, List.length_cons] at hspace
        simp only [hrest, hstep, Option.bind_some]
        exact (ih (by omega)).mpr hreads

end Draft

/-- **No text is too long to be read.** -/
theorem read?_eq_some_iff {cs : List Char} {r : Regex} :
    read? cs = some r ↔ Draft.Reads { rest := cs } r :=
  Draft.run_eq_some_iff (Nat.lt_succ_self _)

/-! ### Texts without marks -/

/-- A character that opens, closes, repeats and escapes nothing. -/
def IsPlain (c : Char) : Prop := c ∉ "()|[?*+\x7b\\".toList

theorem Draft.step_plain (d : Draft) {c : Char} (h : IsPlain c) (cs : List Char) :
    d.step c cs = some (d.push (.atom (Atom.ofChar c)) cs) := by
  simp [IsPlain] at h
  simp [step, h]

theorem Draft.reads_plain {cs : List Char} (h : ∀ c ∈ cs, IsPlain c) (parts : List Regex) :
    Draft.Reads { rest := cs, parts }
      (ofParts ((cs.map fun c => .atom (Atom.ofChar c)).reverse ++ parts)) := by
  induction cs generalizing parts with
  | nil => exact .done rfl rfl
  | cons c cs ih =>
    have hrest := ih (fun d hd => h d (List.mem_cons_of_mem c hd)) (.atom (Atom.ofChar c) :: parts)
    rw [List.map_cons, List.reverse_cons, List.append_assoc]
    exact .step rfl (Draft.step_plain _ (h c List.mem_cons_self) cs) hrest

theorem read?_of_plain {cs : List Char} (h : ∀ c ∈ cs, IsPlain c) :
    read? cs = some (ofParts (cs.map fun c => .atom (Atom.ofChar c)).reverse) := by
  have hreads := Draft.reads_plain h []
  rw [List.append_nil] at hreads
  exact read?_eq_some_iff.mpr hreads

/-! ### Expressions that can be matched -/

theorem partsAfter?_eq_self {m : Mode} {rs : List Regex} (h : ∀ r ∈ rs, r.after? m = some m) :
    partsAfter? m rs = some m := by
  induction rs with
  | nil => rfl
  | cons r rs ih =>
    rw [partsAfter?, h r List.mem_cons_self, Option.bind_some]
    exact ih fun s hs => h s (List.mem_cons_of_mem r hs)

theorem partsDepth_eq_zero {rs : List Regex} (h : ∀ r ∈ rs, r.depth = 0) : partsDepth rs = 0 := by
  induction rs with
  | nil => rfl
  | cons r rs ih =>
    rw [partsDepth, h r List.mem_cons_self, ih fun s hs => h s (List.mem_cons_of_mem r hs)]
    rfl

theorem Atom.isSound_ofChar (c : Char) : (Atom.ofChar c).isSound {} = true := by
  unfold ofChar
  split_ifs <;> rfl

theorem isSound_ofParts {parts : List Regex} (hafter : ∀ r ∈ parts, r.after? {} = some {})
    (hdepth : ∀ r ∈ parts, r.depth = 0) : (ofParts parts).isSound = true := by
  match parts with
  | [] => rfl
  | [r] =>
    have hr := hdepth r List.mem_cons_self
    simp only [ofParts, isSound, hr, hafter r List.mem_cons_self]
    rfl
  | r :: s :: rs =>
    have hparts : partsAfter? {} (r :: s :: rs).reverse = some {} :=
      partsAfter?_eq_self fun t ht => hafter t (List.mem_reverse.mp ht)
    have hflat : partsDepth (r :: s :: rs).reverse = 0 :=
      partsDepth_eq_zero fun t ht => hdepth t (List.mem_reverse.mp ht)
    simp only [ofParts, isSound, after?, depth, hparts, hflat]
    rfl

/-- **A text without marks is an expression.** -/
theorem isWritten_of_plain {cs : List Char} (h : ∀ c ∈ cs, IsPlain c) : isWritten cs = true := by
  have hatom : ∀ r ∈ (cs.map fun c => Regex.atom (Atom.ofChar c)).reverse,
      ∃ c, r = .atom (Atom.ofChar c) := by
    intro r hr
    obtain ⟨c, -, rfl⟩ := List.mem_map.mp (List.mem_reverse.mp hr)
    exact ⟨c, rfl⟩
  rw [isWritten, read?_of_plain h]
  apply isSound_ofParts
  · intro r hr
    obtain ⟨c, rfl⟩ := hatom r hr
    rw [after?, if_pos (Atom.isSound_ofChar c)]
  · intro r hr
    obtain ⟨c, rfl⟩ := hatom r hr
    rfl

end Criteria.Regex
