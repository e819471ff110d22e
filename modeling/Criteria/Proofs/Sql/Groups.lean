/-
  Criteria/Proofs/Sql/Groups.lean
  ===============================
  **Groups, and texts cut between them.**  A text is read with a count of the
  parentheses that are open, where a parenthesis inside a literal does not count.
  `cut` takes a text apart at every ` AND ` that is code at depth zero; it is told
  nothing of how the text came about.

  A group is a text whose first character opens a parenthesis that only its last
  one closes.  `cut_groups` says that groups joined by ` AND ` come apart as they
  were, whatever they hold.
-/
import Criteria.Proofs.Sql.Literals

namespace Criteria.Sql

variable {d : Dialect}

/-! ### Places -/

def Spot.next (d : Dialect) (s : Spot) (c : Char) : Spot := (Reader.step d ⟨[], s⟩ c).spot

/-- Whether a character is code at a spot: a reader there leaves a mark for it alone. -/
def Spot.isCode (d : Dialect) (s : Spot) (c : Char) : Bool :=
  (Reader.step d ⟨[], s⟩ c).marks.getLast? == some (.plain c)

/-- The parentheses that are open behind a character of code. -/
def nest (depth : Int) (c : Char) : Int :=
  if c = '(' then depth + 1 else if c = ')' then depth - 1 else depth

/-- A character of a text; if it is code, with the depth behind it. -/
structure Place where
  char : Char
  depth : Option Int
  deriving DecidableEq, Repr

structure Cursor where
  spot : Spot := .outside
  depth : Int := 0
  deriving DecidableEq, Repr

def Cursor.next (d : Dialect) (k : Cursor) (c : Char) : Cursor :=
  ⟨k.spot.next d c, if k.spot.isCode d c then nest k.depth c else k.depth⟩

def Cursor.place (d : Dialect) (k : Cursor) (c : Char) : Place :=
  ⟨c, if k.spot.isCode d c then some (nest k.depth c) else none⟩

def places (d : Dialect) (k : Cursor) : List Char → List Place
  | [] => []
  | c :: cs => k.place d c :: places d (k.next d c) cs

theorem places_append (d : Dialect) (k : Cursor) (s t : List Char) :
    places d k (s ++ t) = places d k s ++ places d (s.foldl (Cursor.next d) k) t := by
  induction s generalizing k with
  | nil => rfl
  | cons c s ih => simp only [List.cons_append, places, ih, List.foldl_cons]

theorem map_char_places (d : Dialect) (k : Cursor) (s : List Char) :
    (places d k s).map Place.char = s := by
  induction s generalizing k with
  | nil => rfl
  | cons c s ih => simp only [places, List.map_cons, ih, Cursor.place]

/-- Behind a character of code a reader is outside of any literal. -/
theorem Spot.next_of_isCode {s : Spot} {c : Char} (h : s.isCode d c = true) :
    s.next d c = .outside := by
  cases s with
  | outside | closing held =>
    by_cases hc : c = '\''
    · simp [isCode, Reader.step, hc] at h
    · simp [next, Reader.step, hc]
  | inside held =>
    have hmarks : (Reader.step d ⟨[], .inside held⟩ c).marks = [] := by
      simp only [Reader.step, apply_ite Reader.marks, ite_self]
    simp [isCode, hmarks] at h
  | escaped held => simp [isCode, Reader.step] at h

/-- A text whose last character is code leaves the cursor outside, at the depth of that place. -/
theorem foldl_next_of_places {k : Cursor} {s : List Char} {front : List Place} {c : Char} {n : Int}
    (h : places d k s = front ++ [⟨c, some n⟩]) :
    s.foldl (Cursor.next d) k = ⟨.outside, n⟩ := by
  rcases List.eq_nil_or_concat s with rfl | ⟨t, x, rfl⟩
  · simp [places] at h
  · rw [List.concat_eq_append, places_append] at h
    have hlast : (t.foldl (Cursor.next d) k).place d x = ⟨c, some n⟩ :=
      List.singleton_inj.mp (List.append_inj_right' h rfl)
    rw [List.concat_eq_append, List.foldl_append, List.foldl_cons, List.foldl_nil]
    simp only [Cursor.place, Place.mk.injEq, Option.ite_none_right_eq_some, Option.some.injEq]
      at hlast
    obtain ⟨_, hcode, hdepth⟩ := hlast
    rw [Cursor.next, Spot.next_of_isCode hcode, if_pos hcode, hdepth]

/-! ### Cutting -/

/-- The pieces of a text between the places of ` AND ` at depth zero, the first of them already
    begun. -/
def cutFrom (piece : List Char) : List Place → List (List Char)
  | [] => [piece]
  | ⟨' ', some 0⟩ :: ⟨'A', some 0⟩ :: ⟨'N', some 0⟩ :: ⟨'D', some 0⟩ :: ⟨' ', some 0⟩ :: ps =>
    piece :: cutFrom [] ps
  | p :: ps => cutFrom (piece ++ [p.char]) ps

/-- A text cut at every ` AND ` that is code at depth zero. -/
def cut (d : Dialect) (text : List Char) : List (List Char) := cutFrom [] (places d {} text)

def separator : List Place := " AND ".toList.map fun c => ⟨c, some 0⟩

theorem cutFrom_separator (piece : List Char) (ps : List Place) :
    cutFrom piece (separator ++ ps) = piece :: cutFrom [] ps := rfl

/-- A place that is no blank at depth zero begins no separator. -/
def Place.Keeps (p : Place) : Prop := p.depth = some 0 → p.char ≠ ' '

theorem cutFrom_cons_of_keeps {p : Place} (hp : p.Keeps) (piece : List Char) (ps : List Place) :
    cutFrom piece (p :: ps) = cutFrom (piece ++ [p.char]) ps := by
  rw [cutFrom.eq_def]
  split
  · contradiction
  · rename_i heq
    rw [List.cons.injEq] at heq
    rw [heq.1] at hp
    exact absurd rfl (hp rfl)
  · rename_i heq
    rw [List.cons.injEq] at heq
    rw [heq.1, heq.2]

theorem cutFrom_append_of_keeps {qs : List Place} (hqs : ∀ p ∈ qs, p.Keeps) (piece : List Char)
    (ps : List Place) :
    cutFrom piece (qs ++ ps) = cutFrom (piece ++ qs.map Place.char) ps := by
  induction qs generalizing piece with
  | nil => simp
  | cons p qs ih =>
    have hp : p.Keeps := hqs p List.mem_cons_self
    have htail : ∀ q ∈ qs, q.Keeps := fun q hq => hqs q (List.mem_cons_of_mem _ hq)
    rw [List.cons_append, cutFrom_cons_of_keeps hp, ih htail]
    simp

/-! ### Groups -/

def Place.IsInside (p : Place) : Prop := ∀ n ∈ p.depth, 1 ≤ n

/-- One closed group: the parenthesis that its first character opens is closed by its last one,
    and by none before. -/
def IsGroup (d : Dialect) (text : List Char) : Prop :=
  ∃ inner, places d {} text = ⟨'(', some 1⟩ :: (inner ++ [⟨')', some 0⟩]) ∧
    ∀ p ∈ inner, p.IsInside

namespace IsGroup

variable {t : List Char}

theorem places_append (h : IsGroup d t) (rest : List Char) :
    places d {} (t ++ rest) = places d {} t ++ places d {} rest := by
  obtain ⟨inner, hplaces, _⟩ := h
  have hlast : places d {} t = (⟨'(', some 1⟩ :: inner) ++ [⟨')', some 0⟩] := hplaces
  rw [Sql.places_append, foldl_next_of_places hlast]

theorem keeps (h : IsGroup d t) : ∀ p ∈ places d {} t, p.Keeps := by
  obtain ⟨inner, hplaces, hinside⟩ := h
  intro p hp hzero
  rw [hplaces, List.mem_cons, List.mem_append, List.mem_singleton] at hp
  rcases hp with rfl | hp | rfl
  · exact absurd hzero (by decide)
  · exact absurd (hinside p hp 0 hzero) (by decide)
  · decide

end IsGroup

/-- **Groups joined by ` AND ` come apart as they were.** -/
theorem cut_groups {ts : List (List Char)} (hne : ts ≠ []) (h : ∀ t ∈ ts, IsGroup d t) :
    cut d (" AND ".toList.intercalate ts) = ts := by
  induction ts with
  | nil => exact absurd rfl hne
  | cons t ts ih =>
    have ht : IsGroup d t := h t List.mem_cons_self
    -- A last group has no separator behind it.
    cases ts with
    | nil =>
      have hcut := cutFrom_append_of_keeps ht.keeps [] []
      rw [List.append_nil, List.nil_append, map_char_places] at hcut
      rw [List.intercalate_singleton, cut, hcut, cutFrom]
    | cons u us =>
      have hrest : cut d (" AND ".toList.intercalate (u :: us)) = u :: us :=
        ih (List.cons_ne_nil _ _) fun v hv => h v (List.mem_cons_of_mem _ hv)
      have hseparator : ∀ rest, places d {} (" AND ".toList ++ rest) =
          separator ++ places d {} rest := fun _ => rfl
      rw [List.intercalate_cons_cons, cut, List.append_assoc, ht.places_append, hseparator,
        cutFrom_append_of_keeps ht.keeps, cutFrom_separator, List.nil_append, map_char_places]
      exact congrArg (t :: ·) hrest

example : cut .mysql "(a AND b) AND (c = 'it''s \\') AND (d')".toList =
    ["(a AND b)".toList, "(c = 'it''s \\') AND (d')".toList] := by
  decide +kernel

end Criteria.Sql
