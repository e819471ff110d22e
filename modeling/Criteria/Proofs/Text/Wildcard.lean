/-
  Criteria/Proofs/Text/Wildcard.lean
  ==================================
  **Wildcard patterns and the relations of texts.**  Both kinds of store test a
  text by a pattern in which one character stands for any text, another for any
  character, and a third, where there is one, makes the next character stand for
  itself.  `matches?` is the reference reading of such a pattern: it tries every
  place at which the text of a wildcard may end.

  The relations that conditions are evaluated with (`MatchKind.relates`) are the
  equality, prefix, suffix and contiguous part of lists.  `matches?_symbolsFor`
  says that a pattern without live wildcards inside, and with one at the ends
  that the relation leaves open, decides exactly that relation; the two escapers
  enter through `Language.read_escaped`.
-/
import Criteria.Condition.Operator
import Mathlib.Data.List.Infix

namespace Criteria

open Text

/-! ### The relations on lists -/

theorem Text.occursIn_iff (p cs : List Char) : occursIn p cs = true ↔ p <:+: cs := by
  induction cs with
  | nil => simp [occursIn]
  | cons c cs ih =>
    simp only [occursIn, Bool.or_eq_true, List.isPrefixOf_iff_prefix, ih, List.infix_cons_iff]

namespace MatchKind

@[simp] theorem relates_exact (s p : List Char) : exact.relates s p = true ↔ s = p := by
  simp only [relates, beq_iff_eq]

@[simp] theorem relates_leading (s p : List Char) : leading.relates s p = true ↔ p <+: s := by
  simp only [relates, List.isPrefixOf_iff_prefix]

@[simp] theorem relates_trailing (s p : List Char) : trailing.relates s p = true ↔ p <:+ s := by
  simp only [relates, List.isSuffixOf_iff_suffix]

@[simp] theorem relates_within (s p : List Char) : within.relates s p = true ↔ p <:+: s := by
  simp only [relates, occursIn_iff]

end MatchKind

/-! ### Symbols and their matcher -/

namespace Wildcard

/-- What a place of a pattern stands for. -/
inductive Symbol where
  | anyText
  | anyChar
  | exactly (c : Char)
  deriving DecidableEq, Repr

/-- Whether a pattern matches a text as a whole. -/
def matches? : List Symbol → List Char → Bool
  | [], s => s.isEmpty
  | .anyText :: ps, s => s.tails.any fun t => matches? ps t
  | .anyChar :: ps, s =>
    match s with
    | [] => false
    | _ :: t => matches? ps t
  | .exactly c :: ps, s =>
    match s with
    | [] => false
    | x :: t => x == c && matches? ps t

theorem matches?_nil (s : List Char) : matches? [] s = true ↔ s = [] := by
  simp only [matches?, List.isEmpty_iff]

/-- A wildcard takes any front part of the text. -/
theorem matches?_anyText (ps : List Symbol) (s : List Char) :
    matches? (.anyText :: ps) s = true ↔ ∃ a t, s = a ++ t ∧ matches? ps t = true := by
  simp only [matches?, List.any_eq_true, List.mem_tails]
  constructor
  · rintro ⟨t, ⟨a, rfl⟩, ht⟩
    exact ⟨a, t, rfl, ht⟩
  · rintro ⟨a, t, rfl, ht⟩
    exact ⟨t, ⟨a, rfl⟩, ht⟩

/-- Characters that stand for themselves take themselves. -/
theorem matches?_exactly (cs : List Char) (ps : List Symbol) (s : List Char) :
    matches? (cs.map .exactly ++ ps) s = true ↔ ∃ t, s = cs ++ t ∧ matches? ps t = true := by
  induction cs generalizing s with
  | nil => simp
  | cons c cs ih =>
    cases s with
    | nil => simp [matches?]
    | cons x s =>
      simp only [List.map_cons, List.cons_append, matches?, Bool.and_eq_true, beq_iff_eq, ih,
        List.cons.injEq]
      constructor
      · rintro ⟨rfl, t, rfl, ht⟩
        exact ⟨t, ⟨rfl, rfl⟩, ht⟩
      · rintro ⟨t, ⟨rfl, rfl⟩, ht⟩
        exact ⟨rfl, t, rfl, ht⟩

/-- The pattern of a relation: the text itself, open at the ends that the relation leaves open. -/
def symbolsFor (kind : MatchKind) (raw : List Char) : List Symbol :=
  match kind with
  | .exact => raw.map .exactly
  | .leading => raw.map .exactly ++ [.anyText]
  | .trailing => .anyText :: raw.map .exactly
  | .within => .anyText :: (raw.map .exactly ++ [.anyText])

theorem matches?_anyText_end (s : List Char) : matches? [.anyText] s = true := by
  rw [matches?_anyText]
  exact ⟨s, [], (List.append_nil s).symm, (matches?_nil []).mpr rfl⟩

theorem matches?_exactly_end (cs s : List Char) :
    matches? (cs.map .exactly) s = true ↔ s = cs := by
  have h := matches?_exactly cs [] s
  rw [List.append_nil] at h
  rw [h]
  constructor
  · rintro ⟨t, rfl, ht⟩
    rw [(matches?_nil t).mp ht, List.append_nil]
  · rintro rfl
    exact ⟨[], (List.append_nil s).symm, (matches?_nil []).mpr rfl⟩

/-- **The pattern of a relation decides the relation.** -/
theorem matches?_symbolsFor (kind : MatchKind) (raw s : List Char) :
    matches? (symbolsFor kind raw) s = kind.relates s raw := by
  rw [Bool.eq_iff_iff]
  cases kind with
  | exact => rw [symbolsFor, matches?_exactly_end, MatchKind.relates_exact]
  | leading =>
    rw [symbolsFor, matches?_exactly, MatchKind.relates_leading]
    constructor
    · rintro ⟨t, rfl, _⟩
      exact ⟨t, rfl⟩
    · rintro ⟨t, rfl⟩
      exact ⟨t, rfl, matches?_anyText_end t⟩
  | trailing =>
    rw [symbolsFor, matches?_anyText, MatchKind.relates_trailing]
    constructor
    · rintro ⟨a, t, rfl, ht⟩
      rw [(matches?_exactly_end raw t).mp ht]
      exact ⟨a, rfl⟩
    · rintro ⟨a, rfl⟩
      exact ⟨a, raw, rfl, (matches?_exactly_end raw raw).mpr rfl⟩
  | within =>
    rw [symbolsFor, matches?_anyText, MatchKind.relates_within]
    constructor
    · rintro ⟨a, t, rfl, ht⟩
      obtain ⟨b, rfl, _⟩ := (matches?_exactly raw [.anyText] t).mp ht
      exact ⟨a, b, List.append_assoc a raw b⟩
    · rintro ⟨a, b, rfl⟩
      refine ⟨a, raw ++ b, List.append_assoc a raw b, ?_⟩
      exact (matches?_exactly raw [.anyText] (raw ++ b)).mpr ⟨b, rfl, matches?_anyText_end b⟩

/-! ### Patterns as they are written -/

/-- The characters that a pattern language gives a meaning. -/
structure Language where
  /-- Stands for any text. -/
  many : Char
  /-- Stands for any character. -/
  one : Char
  /-- Makes the next character stand for itself, if there is such a character. -/
  escape : Option Char

/-- A character that no escape stands before. -/
def Language.symbol (l : Language) (c : Char) : Symbol :=
  if c = l.many then .anyText else if c = l.one then .anyChar else .exactly c

/-- A pattern read in a language; an escape with nothing behind it stands for itself. -/
def Language.read (l : Language) : List Char → List Symbol
  | [] => []
  | [c] => [if l.escape = some c then .exactly c else l.symbol c]
  | c :: x :: cs =>
    if l.escape = some c then .exactly x :: l.read cs else l.symbol c :: l.read (x :: cs)

theorem Language.read_cons (l : Language) {c : Char} (h : l.escape ≠ some c) (cs : List Char) :
    l.read (c :: cs) = l.symbol c :: l.read cs := by
  cases cs with
  | nil => simp only [Language.read, if_neg h]
  | cons x cs => simp only [Language.read, if_neg h]

theorem Language.read_escape (l : Language) {e : Char} (h : l.escape = some e) (c : Char)
    (cs : List Char) : l.read (e :: c :: cs) = .exactly c :: l.read cs := by
  simp only [Language.read, if_pos h]

/-- A character without a meaning in the language stands for itself. -/
def Language.Plain (l : Language) (c : Char) : Prop :=
  c ≠ l.many ∧ c ≠ l.one ∧ l.escape ≠ some c

theorem Language.read_plain (l : Language) {c : Char} (h : l.Plain c) (cs : List Char) :
    l.read (c :: cs) = .exactly c :: l.read cs := by
  rw [l.read_cons h.2.2, Language.symbol, if_neg h.1, if_neg h.2.1]

/-- **An escaped text stands for itself**, whatever follows it: the escaper puts the escape before
    every character with a meaning. -/
theorem Language.read_escaped (l : Language) {e : Char} (he : l.escape = some e)
    (escaper : Char → List Char)
    (h : ∀ c, escaper c = [e, c] ∨ escaper c = [c] ∧ l.Plain c) (raw rest : List Char) :
    l.read (raw.flatMap escaper ++ rest) = raw.map .exactly ++ l.read rest := by
  induction raw with
  | nil => rfl
  | cons c raw ih =>
    rw [List.flatMap_cons, List.append_assoc, List.map_cons, List.cons_append]
    rcases h c with hc | ⟨hc, hplain⟩
    · rw [hc, List.cons_append, List.cons_append, List.nil_append, l.read_escape he, ih]
    · rw [hc, List.cons_append, List.nil_append, l.read_plain hplain, ih]

/-- A text of plain characters stands for itself, whatever follows it. -/
theorem Language.read_allPlain (l : Language) {raw : List Char} (h : ∀ c ∈ raw, l.Plain c)
    (rest : List Char) : l.read (raw ++ rest) = raw.map .exactly ++ l.read rest := by
  induction raw with
  | nil => rfl
  | cons c raw ih =>
    rw [List.cons_append, l.read_plain (h c List.mem_cons_self),
      ih fun x hx => h x (List.mem_cons_of_mem c hx)]
    rfl

end Wildcard

end Criteria
