/-
  Criteria/Proofs/Record/Flattened.lean
  =====================================
  **A JSON record behaves as its flattened map.**  The members reached through
  nested objects lie at the ends of paths of keys (`reached`), and the flattened map
  has each of them under the keys of its path, joined by dots.  Following a path
  comes to exactly the member at its end (`follow_eq_some_iff`).  As long as no key
  holds a dot, joining keys and cutting names are inverse to each other, empty keys
  included; so a name leads to one path, a key to itself, and the exact keys that
  are looked up first are nothing but paths of one key.

  In an object that was read from a text a key stands once (`oneEach_of_read?`), as a
  member whose key is there already is not set again.
-/
import Criteria.Evaluation
import Criteria.Json.Document
import Mathlib.Data.List.Nodup

namespace Criteria

/-! ### Members at the ends of paths -/

mutual

/-- The members inside a value, each with the keys that lead to it; only objects have any. -/
def Json.inside : Json → List (List String × Json)
  | .object ms => Members.reached ms
  | _ => []

/-- The members reached through nested objects, those objects themselves included. -/
def Members.reached : List (String × Json) → List (List String × Json)
  | [] => []
  | (k, v) :: ms => ([k], v) :: (v.inside.map (fun e => (k :: e.1, e.2)) ++ Members.reached ms)

end

/-- The members of an object; no other value has any. -/
def Json.members : Json → Members
  | .object ms => ms
  | _ => []

namespace Members

/-- An object and the objects reached inside it. -/
def objects (ms : Members) : List Members := ms :: (reached ms).map fun e => e.2.members

/-- In each of the objects a key stands once. -/
def OneEach (ms : Members) : Prop := ∀ o ∈ ms.objects, (o.map Prod.fst).Nodup

/-- In none of the objects does a key hold a dot. -/
def Dotless (ms : Members) : Prop := ∀ o ∈ ms.objects, ∀ e ∈ o, '.' ∉ e.1.toList

/-- The fields of the flattened map: every member reached, under its keys joined by dots. -/
def flattened (ms : Members) : List (String × Value) :=
  (reached ms).map fun e => (".".intercalate e.1, e.2.toValue)

variable {ms : Members}

theorem mem_reached_iff {e : List String × Json} :
    e ∈ reached ms ↔
      ∃ k v, (k, v) ∈ ms ∧ (e = ([k], v) ∨ ∃ e' ∈ v.inside, e = (k :: e'.1, e'.2)) := by
  induction ms with
  | nil => simp [reached]
  | cons m ms ih =>
    obtain ⟨k, v⟩ := m
    simp only [reached, List.mem_cons, List.mem_append, List.mem_map, ih, Prod.mk.injEq]
    constructor
    · rintro (rfl | ⟨e', he', rfl⟩ | ⟨k', v', hmem, he⟩)
      · exact ⟨k, v, .inl ⟨rfl, rfl⟩, .inl rfl⟩
      · exact ⟨k, v, .inl ⟨rfl, rfl⟩, .inr ⟨e', he', rfl⟩⟩
      · exact ⟨k', v', .inr hmem, he⟩
    · rintro ⟨k', v', ⟨rfl, rfl⟩ | hmem, he⟩
      · rcases he with rfl | ⟨e', he', rfl⟩
        · exact .inl rfl
        · exact .inr (.inl ⟨e', he', rfl⟩)
      · exact .inr (.inr ⟨k', v', hmem, he⟩)

theorem ne_nil_of_mem_reached {e : List String × Json} (h : e ∈ reached ms) : e.1 ≠ [] := by
  rw [mem_reached_iff] at h
  obtain ⟨k, v, -, rfl | ⟨e', -, rfl⟩⟩ := h <;> simp

theorem mem_inside_iff {v : Json} {e : List String × Json} :
    e ∈ v.inside ↔ ∃ inner, v = .object inner ∧ e ∈ reached inner := by
  cases v with
  | object inner => simp [Json.inside]
  | null | bool b | int i | float x | string s | array items => simp [Json.inside]

/-- A path of one key ends at a member of the object itself. -/
theorem singleton_mem_reached {k : String} {v : Json} :
    ([k], v) ∈ reached ms ↔ (k, v) ∈ ms := by
  rw [mem_reached_iff]
  constructor
  · rintro ⟨k', v', hmem, heq | ⟨e, he, heq⟩⟩
    · obtain ⟨rfl, rfl⟩ : k = k' ∧ v = v' := by simpa using heq
      exact hmem
    · rw [mem_inside_iff] at he
      obtain ⟨inner, -, he⟩ := he
      rw [Prod.mk.injEq, List.cons.injEq] at heq
      exact absurd heq.1.2.symm (ne_nil_of_mem_reached he)
  · intro hmem
    exact ⟨k, v, hmem, .inl rfl⟩

/-- A longer path goes on inside an object. -/
theorem cons_cons_mem_reached {k k' : String} {ks : List String} {v : Json} :
    (k :: k' :: ks, v) ∈ reached ms ↔
      ∃ inner, (k, .object inner) ∈ ms ∧ (k' :: ks, v) ∈ reached inner := by
  rw [mem_reached_iff]
  constructor
  · rintro ⟨l, w, hmem, heq | ⟨e, he, heq⟩⟩
    · simp at heq
    · rw [mem_inside_iff] at he
      obtain ⟨inner, rfl, he⟩ := he
      obtain ⟨⟨rfl, hks⟩, hv⟩ : (k = l ∧ k' :: ks = e.1) ∧ v = e.2 := by simpa using heq
      refine ⟨inner, hmem, ?_⟩
      rw [hks, hv]
      exact he
  · rintro ⟨inner, hmem, he⟩
    have hinside : (k' :: ks, v) ∈ (Json.object inner).inside := by
      rw [mem_inside_iff]
      exact ⟨inner, rfl, he⟩
    exact ⟨k, _, hmem, .inr ⟨_, hinside, rfl⟩⟩

/-! ### Objects inside objects -/

theorem mem_objects_self (ms : Members) : ms ∈ ms.objects := List.mem_cons_self

theorem inside_eq (v : Json) : v.inside = reached v.members := by
  cases v <;> simp only [Json.inside, Json.members, reached]

/-- Besides an object itself there are the objects of its members. -/
theorem mem_objects_iff {o : Members} :
    o ∈ ms.objects ↔ o = ms ∨ ∃ e ∈ ms, o ∈ e.2.members.objects := by
  constructor
  · intro ho
    rcases List.mem_cons.mp ho with rfl | ho
    · exact .inl rfl
    · obtain ⟨e, he, rfl⟩ := List.mem_map.mp ho
      rw [mem_reached_iff] at he
      obtain ⟨k, v, hmem, rfl | ⟨e', he', rfl⟩⟩ := he
      · exact .inr ⟨(k, v), hmem, mem_objects_self v.members⟩
      · rw [inside_eq] at he'
        exact .inr ⟨(k, v), hmem, List.mem_cons_of_mem _ (List.mem_map.mpr ⟨e', he', rfl⟩)⟩
  · rintro (rfl | ⟨⟨k, v⟩, hmem, ho⟩)
    · exact mem_objects_self o
    · apply List.mem_cons_of_mem
      rcases List.mem_cons.mp ho with rfl | ho
      · rw [← singleton_mem_reached] at hmem
        exact List.mem_map.mpr ⟨([k], v), hmem, rfl⟩
      · obtain ⟨e, he, rfl⟩ := List.mem_map.mp ho
        rw [← inside_eq] at he
        have hlonger : (k :: e.1, e.2) ∈ reached ms := by
          rw [mem_reached_iff]
          exact ⟨k, v, hmem, .inr ⟨e, he, rfl⟩⟩
        exact List.mem_map.mpr ⟨(k :: e.1, e.2), hlonger, rfl⟩

theorem objects_subset {k : String} {inner : Members} (h : (k, .object inner) ∈ ms) :
    inner.objects ⊆ ms.objects := by
  intro o ho
  rw [mem_objects_iff]
  exact .inr ⟨_, h, ho⟩

theorem OneEach.inner (h : ms.OneEach) {k : String} {inner : Members}
    (hmem : (k, .object inner) ∈ ms) : inner.OneEach :=
  fun o ho => h o (objects_subset hmem ho)

theorem Dotless.inner (h : ms.Dotless) {k : String} {inner : Members}
    (hmem : (k, .object inner) ∈ ms) : inner.Dotless :=
  fun o ho => h o (objects_subset hmem ho)

theorem OneEach.eq_of_mem (h : ms.OneEach) {k : String} {v w : Json} (hv : (k, v) ∈ ms)
    (hw : (k, w) ∈ ms) : v = w := by
  have hequal := List.inj_on_of_nodup_map (h ms (mem_objects_self ms)) hv hw rfl
  exact (Prod.mk.inj hequal).2

/-- No key on the way to a member holds a dot. -/
theorem Dotless.of_mem_reached (h : ms.Dotless) {ks : List String} {v : Json}
    (hmem : (ks, v) ∈ reached ms) : ∀ k ∈ ks, '.' ∉ k.toList := by
  -- by induction on the path, from object to object
  induction ks generalizing ms with
  | nil => exact fun k hk => absurd hk List.not_mem_nil
  | cons k ks ih =>
    rw [List.forall_mem_cons]
    cases ks with
    | nil =>
      have hk := h ms (mem_objects_self ms) _ (singleton_mem_reached.mp hmem)
      exact ⟨hk, fun k hk => absurd hk List.not_mem_nil⟩
    | cons k' ks =>
      obtain ⟨inner, hinner, hmem⟩ := cons_cons_mem_reached.mp hmem
      exact ⟨h ms (mem_objects_self ms) _ hinner, ih (h.inner hinner) hmem⟩

/-! ### Following a path -/

/-- In a list in which a key has one value, a look-up finds exactly what the list holds. -/
theorem lookup_eq_some_iff_mem {α : Type} {l : List (String × α)}
    (h : ∀ {k v w}, (k, v) ∈ l → (k, w) ∈ l → v = w) {k : String} {v : α} :
    l.lookup k = some v ↔ (k, v) ∈ l := by
  have hfound : ∀ {w}, l.lookup k = some w → (k, w) ∈ l := by
    intro w hw
    obtain ⟨before, after, rfl, -⟩ := List.lookup_eq_some_iff.mp hw
    simp
  constructor
  · exact hfound
  · intro hv
    cases hw : l.lookup k with
    | none =>
      have hne := List.lookup_eq_none_iff.mp hw _ hv
      simp at hne
    | some w => rw [h (hfound hw) hv]

/-- **Following a path comes to the member at its end.** -/
theorem follow_eq_some_iff (h : ms.OneEach) {ks : List String} {v : Json} :
    ms.follow ks = some v ↔ (ks, v) ∈ reached ms := by
  induction ks generalizing ms with
  | nil =>
    simp only [follow, reduceCtorEq, false_iff]
    exact fun hmem => ne_nil_of_mem_reached hmem rfl
  | cons k ks ih =>
    cases ks with
    | nil =>
      rw [follow, singleton_mem_reached, lookup_eq_some_iff_mem h.eq_of_mem]
    | cons k' ks =>
      rw [cons_cons_mem_reached]
      constructor
      · intro hfollow
        unfold follow at hfollow
        split at hfollow
        · next inner hlookup =>
          have hinner := (lookup_eq_some_iff_mem h.eq_of_mem).mp hlookup
          exact ⟨inner, hinner, (ih (h.inner hinner)).mp hfollow⟩
        · exact nomatch hfollow
      · rintro ⟨inner, hinner, hmem⟩
        have hlookup := (lookup_eq_some_iff_mem h.eq_of_mem).mpr hinner
        unfold follow
        rw [hlookup]
        exact (ih (h.inner hinner)).mpr hmem

/-! ### Names and paths -/

/-- Keys without dots are cut apart again where they were joined. -/
theorem path_intercalate {ks : List String} (hne : ks ≠ []) (hks : ∀ k ∈ ks, '.' ∉ k.toList) :
    path (".".intercalate ks) = ks := by
  have hcut : (['.'].intercalate (ks.map String.toList)).splitOn '.' = ks.map String.toList := by
    refine List.splitOn_intercalate '.' ?_ (by simpa using hne)
    intro l hl
    obtain ⟨k, hk, rfl⟩ := List.mem_map.mp hl
    exact hks k hk
  have hdot : ".".toList = ['.'] := rfl
  rw [path, String.toList_intercalate, hdot, hcut, List.map_map]
  simp [Function.comp_def]

theorem intercalate_path (name : String) : ".".intercalate (path name) = name := by
  have hdot : ".".toList = ['.'] := rfl
  rw [← String.toList_inj, String.toList_intercalate, hdot, path, List.map_map]
  simp [Function.comp_def, List.intercalate_splitOn]

theorem path_of_dotless {name : String} (h : '.' ∉ name.toList) : path name = [name] := by
  rw [path, List.splitOn_eq_singleton h, List.map_singleton, String.ofList_toList]

/-- **An exact key is a path of one key**, so every name is followed as a path. -/
theorem resolve_eq_follow (h : ms.Dotless) (name : String) :
    ms.resolve name = ms.follow (path name) := by
  unfold resolve
  cases hlookup : ms.lookup name with
  | none => rfl
  | some v =>
    obtain ⟨before, after, hms, -⟩ := List.lookup_eq_some_iff.mp hlookup
    have hname := h ms (mem_objects_self ms) (name, v) (by rw [hms]; simp)
    rw [path_of_dotless hname, follow, hlookup]

/-! ### The flattened map -/

theorem mem_flattened_iff (hone : ms.OneEach) (hdot : ms.Dotless) {name : String} {w : Value} :
    (name, w) ∈ ms.flattened ↔ (ms.resolve name).map Json.toValue = some w := by
  rw [resolve_eq_follow hdot, Option.map_eq_some_iff]
  simp only [follow_eq_some_iff hone, flattened, List.mem_map, Prod.mk.injEq]
  constructor
  · rintro ⟨⟨ks, v⟩, hmem, rfl, rfl⟩
    rw [path_intercalate (ne_nil_of_mem_reached hmem) (hdot.of_mem_reached hmem)]
    exact ⟨v, hmem, rfl⟩
  · rintro ⟨v, hmem, rfl⟩
    exact ⟨(path name, v), hmem, intercalate_path name, rfl⟩

/-! ### Objects that are read -/

theorem oneEach_iff :
    ms.OneEach ↔ (ms.map Prod.fst).Nodup ∧ ∀ e ∈ ms, e.2.members.OneEach := by
  constructor
  · intro h
    refine ⟨h ms (mem_objects_self ms), fun e he o ho => h o ?_⟩
    exact mem_objects_iff.mpr (.inr ⟨e, he, ho⟩)
  · rintro ⟨hkeys, hinner⟩ o ho
    rcases mem_objects_iff.mp ho with rfl | ⟨e, he, ho⟩
    · exact hkeys
    · exact hinner e he o ho

theorem oneEach_nil : OneEach [] := oneEach_iff.mpr ⟨List.nodup_nil, List.forall_mem_nil _⟩

/-- A member that is set under a new key is one member more. -/
theorem set_perm {k : String} (h : ms.lookup k = none) (v : Json) :
    (ms.set k v).Perm ((k, v) :: ms) := by
  induction ms with
  | nil => exact .refl _
  | cons m ms ih =>
    rw [List.lookup_eq_none_iff, List.forall_mem_cons] at h
    have hne : k ≠ m.1 := by simpa using h.1
    rw [set, if_neg hne]
    split
    · exact .refl _
    · exact ((ih (List.lookup_eq_none_iff.mpr h.2)).cons m).trans (.swap (k, v) m ms)

theorem OneEach.set (h : ms.OneEach) {k : String} {v : Json} (hk : ms.lookup k = none)
    (hv : v.members.OneEach) : (ms.set k v).OneEach := by
  have hperm := set_perm hk v
  obtain ⟨hkeys, hinner⟩ := oneEach_iff.mp h
  have hnew : k ∉ ms.map Prod.fst := by
    intro hmem
    obtain ⟨e, he, rfl⟩ := List.mem_map.mp hmem
    have hne := List.lookup_eq_none_iff.mp hk e he
    simp at hne
  rw [oneEach_iff]
  constructor
  · rw [(hperm.map Prod.fst).nodup_iff]
    exact List.nodup_cons.mpr ⟨hnew, hkeys⟩
  · intro e he
    rcases List.mem_cons.mp (hperm.mem_iff.mp he) with rfl | he
    · exact hv
    · exact hinner e he

end Members

namespace Json

theorem members_of_numeral {n : Numeral} {v : Json} (h : n.value? = some v) : v.members = [] := by
  simp only [Numeral.value?, finite?] at h
  split_ifs at h <;> cases h <;> rfl

mutual

/-- **In an object that a text denotes a key stands once**, and in the objects inside it. -/
theorem Doc.oneEach_of_value? : ∀ (d : Doc) {v : Json}, d.value? = some v → v.members.OneEach
  | .object ds, v, h => by
    rw [Doc.value?, Option.map_eq_some_iff] at h
    obtain ⟨ms, hms, rfl⟩ := h
    exact oneEach_of_memberValues? ds hms
  | .array ds, v, h => by
    rw [Doc.value?, Option.map_eq_some_iff] at h
    obtain ⟨vs, -, rfl⟩ := h
    exact Members.oneEach_nil
  | .number n, v, h => by
    rw [members_of_numeral h]
    exact Members.oneEach_nil
  | .string s, v, h => by
    rw [Doc.value?, Option.map_eq_some_iff] at h
    obtain ⟨t, -, rfl⟩ := h
    exact Members.oneEach_nil
  | .bool b, v, h => by
    rw [Doc.value?, Option.some.injEq] at h
    rw [← h]
    exact Members.oneEach_nil
  | .null, v, h => by
    rw [Doc.value?, Option.some.injEq] at h
    rw [← h]
    exact Members.oneEach_nil

theorem oneEach_of_memberValues? :
    ∀ (ds : List (Option String × Doc)) {ms : Members}, memberValues? ds = some ms → ms.OneEach
  | [], ms, h => by
    rw [memberValues?, Option.some.injEq] at h
    rw [← h]
    exact Members.oneEach_nil
  | (k, d) :: ds, ms, h => by
    simp only [memberValues?, Option.bind_eq_some_iff, Option.map_eq_some_iff] at h
    obtain ⟨k, -, v, hv, rest, hrest, rfl⟩ := h
    have hone := oneEach_of_memberValues? ds hrest
    split
    · exact hone
    · next hnew =>
      exact hone.set (Option.not_isSome_iff_eq_none.mp hnew) (Doc.oneEach_of_value? d hv)

end

theorem oneEach_of_read? {cs : List Char} {ms : Members} (h : read? cs = some (.object ms)) :
    ms.OneEach := by
  obtain ⟨d, -, hvalue⟩ := Option.bind_eq_some_iff.mp h
  split at hvalue
  · exact Doc.oneEach_of_value? d hvalue
  · exact nomatch hvalue

end Json

/-! ### Records -/

/-- Records with the same fields have the same answers. -/
theorem Condition.evaluate_congr_fields {r r' : Record}
    (h : ∀ name, r.field? name = r'.field? name) (m : Moment) (c : Condition) :
    c.evaluate m r = c.evaluate m r' := by
  simp only [evaluate, fieldOf, h]

theorem evaluateRecord_congr_fields {r r' : Record} (h : ∀ name, r.field? name = r'.field? name)
    (m : Moment) (cs : List Condition) : evaluateRecord m r cs = evaluateRecord m r' cs := by
  unfold evaluateRecord
  induction cs with
  | nil => rfl
  | cons c cs ih =>
    simp only [List.map_cons, evaluateAll, Condition.evaluate_congr_fields h m c, ih]

namespace Record

section

variable {ms : Members} {fields : List (String × Value)}
  (hfields : ∀ e, e ∈ fields ↔ e ∈ ms.flattened)

include hfields

theorem field?_eq_flattened (hone : ms.OneEach) (hdot : ms.Dotless) (name : String) :
    (Record.json ms).field? name = (Record.plain fields).field? name := by
  have hone' : ∀ {name w w'}, (name, w) ∈ fields → (name, w') ∈ fields → w = w' := by
    intro name w w' hw hw'
    rw [hfields, Members.mem_flattened_iff hone hdot] at hw hw'
    exact Option.some.inj (hw.symm.trans hw')
  apply Option.ext
  intro w
  rw [field?, field?, Members.lookup_eq_some_iff_mem hone', hfields,
    Members.mem_flattened_iff hone hdot]

/-- **An object that was read from a text behaves as its flattened map**, if no key in it holds a
    dot: that a key stands once is no matter of the text. -/
theorem read?_eq_flattened {cs : List Char} (hread : Json.read? cs = some (.object ms))
    (hdot : ms.Dotless) :
    (∀ name, (Record.json ms).field? name = (Record.plain fields).field? name) ∧
    ∀ m cs, evaluateRecord m (.json ms) cs = evaluateRecord m (.plain fields) cs := by
  have hsame := field?_eq_flattened hfields (Json.oneEach_of_read? hread) hdot
  exact ⟨hsame, evaluateRecord_congr_fields hsame⟩

end

/-- **A JSON record behaves as its flattened map.**  Take an object in which a key stands once and
    no key holds a dot, in the objects nested in it as well, and a plain record with exactly the
    fields of the flattened map.  Under every name both have the same field or none, and every list
    of conditions has the same answer or error on both. -/
theorem json_eq_flattened {ms : Members} (hone : ms.OneEach) (hdot : ms.Dotless)
    {fields : List (String × Value)} (hfields : ∀ e, e ∈ fields ↔ e ∈ ms.flattened) :
    (∀ name, (Record.json ms).field? name = (Record.plain fields).field? name) ∧
    ∀ m cs, evaluateRecord m (.json ms) cs = evaluateRecord m (.plain fields) cs := by
  have hsame := field?_eq_flattened hfields hone hdot
  exact ⟨hsame, evaluateRecord_congr_fields hsame⟩

/-- Empty keys, and an array whose object has a dot in a key: the array is read as a text and not
    entered.  The fields of the map stand in another order. -/
theorem json_eq_flattened_emptyKeys :
    let nested : Record :=
      .json [("", .object [("", .int 1), ("a", .array [.object [("x.y", .null)]])]), ("b", .null)]
    let flat : Record :=
      .plain [(".", .number (.ofInt 1)), ("b", .null), (".a", .text "[\x7b\"x.y\":null\x7d]"),
        ("", .text "\x7b\"\":1,\"a\":[\x7b\"x.y\":null\x7d]\x7d")]
    (∀ name, nested.field? name = flat.field? name) ∧
    ∀ m cs, evaluateRecord m nested cs = evaluateRecord m flat cs := by
  have hflattened : Members.flattened
      [("", .object [("", .int 1), ("a", .array [.object [("x.y", .null)]])]), ("b", .null)] =
      [("", .text "\x7b\"\":1,\"a\":[\x7b\"x.y\":null\x7d]\x7d"), (".", .number (.ofInt 1)),
        (".a", .text "[\x7b\"x.y\":null\x7d]"), ("b", .null)] := by decide +kernel
  refine json_eq_flattened ?_ ?_ ?_
  · unfold Members.OneEach
    decide +kernel
  · unfold Members.Dotless
    decide +kernel
  · rw [hflattened]
    intro e
    simp only [List.mem_cons, List.not_mem_nil, or_false]
    tauto

end Record

end Criteria
