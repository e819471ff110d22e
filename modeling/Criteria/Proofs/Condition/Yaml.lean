/-
  Criteria/Proofs/Condition/Yaml.lean
  ===================================
  **Conditions that are sent as YAML.**  A mapping is read by its keys: their order does
  not matter, keys that no part of a condition has are passed over, and a key that
  stands twice makes it none (`ofNode?_perm`, `ofNode?_mapping`).  An operand in quotes
  is a text whatever it says, a plain whole number is its nearest double, and none is
  ever a date-time (`ne_time_of_operandOfNode?`): that a text becomes one is left to
  the value type, as it is with JSON.
-/
import Criteria.Condition.Yaml
import Criteria.Proofs.Condition.Wire
import Criteria.Proofs.Text.Digits
import Mathlib.Data.List.Forall2
import Mathlib.Data.List.Perm.Basic

namespace Criteria

/-! ### Whole numbers -/

namespace Yaml.V11

open Text

theorem unsigned_intDigits (i : Int) : unsigned (intDigits i) = digits i.natAbs := by
  unfold intDigits
  split_ifs with hneg
  · rfl
  · unfold unsigned
    split
    · next h => exact absurd (isDigit_of_mem_digits (h ▸ List.mem_cons_self)) (by decide)
    · next h => exact absurd (isDigit_of_mem_digits (h ▸ List.mem_cons_self)) (by decide)
    · rfl

theorem hasSpareZero_intDigits (i : Int) : hasSpareZero (intDigits i) = false := by
  unfold hasSpareZero
  split
  · next h =>
    rw [unsigned_intDigits] at h
    exact nomatch eq_nil_of_digits_eq h
  · rfl

theorem readMagnitude_digits (n : Nat) : readMagnitude (digits n) = some n := by
  have hsecond : ∀ c d r, digits n = c :: d :: r → isDigit d = true := by
    intro c d r h
    exact isDigit_of_mem_digits (h ▸ List.mem_cons_of_mem c List.mem_cons_self)
  unfold readMagnitude
  split
  · next h => exact absurd (hsecond _ _ _ h) (by decide)
  · next h => exact absurd (hsecond _ _ _ h) (by decide)
  · next h => exact absurd (hsecond _ _ _ h) (by decide)
  · exact readNat_digits n

theorem readWhole_intDigits (i : Int) : readWhole (intDigits i) = some i := by
  unfold readWhole
  rw [hasSpareZero_intDigits, if_neg Bool.false_ne_true]
  rcases lt_or_ge i 0 with hneg | hnonneg
  · obtain ⟨n, rfl⟩ : ∃ n : Nat, i = -(n : Int) := ⟨i.natAbs, by omega⟩
    rw [intDigits_neg (by omega)]
    simp only [readMagnitude_digits]
    rfl
  · obtain ⟨n, rfl⟩ := Int.eq_ofNat_of_zero_le hnonneg
    rw [intDigits_natCast]
    split
    · next h => exact absurd (isDigit_of_mem_digits (h ▸ List.mem_cons_self)) (by decide)
    · next h => exact absurd (isDigit_of_mem_digits (h ▸ List.mem_cons_self)) (by decide)
    · rw [readMagnitude_digits]
      rfl

/-- A character of no whole number. -/
def isForeign (c : Char) : Bool := !(isDigit c || c = '+' || c = '-')

/-- No whole number is a name that has other characters. -/
theorem any_name_intDigits {names : List String} (i : Int)
    (hnames : (names.all fun n => n.toList.any isForeign) = true) :
    (names.any fun n => n.toList == intDigits i) = false := by
  rw [List.any_eq_false]
  intro n hn heq
  obtain ⟨c, hc, hforeign⟩ := List.any_eq_true.mp (List.all_eq_true.mp hnames n hn)
  rw [eq_of_beq heq] at hc
  have hsigned := readInt_eq_some_iff.mp (readInt_intDigits i)
  rcases hsigned.mem hc with h | h | h <;> simp [isForeign, h] at hforeign

/-- A plain whole number of 64 bits is that number. -/
theorem plainMeaning_intDigits {i : Int} (h : (fitsSigned 64 i || fitsUnsigned 64 i) = true) :
    plainMeaning (intDigits i) = .int i := by
  have hempty : (intDigits i).isEmpty = false := by
    have hread := readInt_intDigits i
    cases hcs : intDigits i with
    | nil =>
      rw [hcs] at hread
      exact nomatch hread
    | cons c cs => rfl
  have hnull : isNull (intDigits i) = false := any_name_intDigits i (by decide +kernel)
  have hbool : readBool (intDigits i) = none := by
    rw [readBool, any_name_intDigits i (by decide +kernel),
      any_name_intDigits i (by decide +kernel)]
    rfl
  have hint : intMeaning? (intDigits i) = some (.int i) := by
    rw [intMeaning?, readWhole_intDigits, Option.bind_some, if_pos h]
  simp only [plainMeaning, hempty, hnull, hbool, hint, Bool.or_self, Bool.false_eq_true, if_false]

/-! ### Members -/

theorem mapM_eq_some_iff {α β : Type} {f : α → Option β} {xs : List α} {ys : List β} :
    xs.mapM f = some ys ↔ List.Forall₂ (fun x y => f x = some y) xs ys := by
  induction xs generalizing ys with
  | nil =>
    rw [List.mapM_nil, List.forall₂_nil_left_iff]
    exact ⟨fun h => (Option.some.inj h).symm, fun h => congrArg some h.symm⟩
  | cons x xs ih =>
    rw [List.mapM_cons, List.forall₂_cons_left_iff]
    constructor
    · intro h
      obtain ⟨y, hy, h⟩ := Option.bind_eq_some_iff.mp h
      obtain ⟨zs, hzs, h⟩ := Option.bind_eq_some_iff.mp h
      exact ⟨y, zs, hy, ih.mp hzs, (Option.some.inj h).symm⟩
    · rintro ⟨y, zs, hy, hzs, rfl⟩
      rw [hy, ih.mpr hzs]
      rfl

theorem mapM_perm {α β : Type} {f : α → Option β} {xs xs' : List α} {ys : List β}
    (hperm : xs.Perm xs') (h : xs.mapM f = some ys) :
    ∃ ys', xs'.mapM f = some ys' ∧ ys'.Perm ys := by
  obtain ⟨ys', hys', hperm'⟩ := List.perm_comp_forall₂ hperm.symm (mapM_eq_some_iff.mp h)
  exact ⟨ys', mapM_eq_some_iff.mpr hys', hperm'⟩

/-- What stands under a key does not depend on the order of the members. -/
theorem member?_perm {ms ms' : List (List Char × Node)} (h : ms.Perm ms') (key : String) :
    member? key ms = member? key ms' := by
  have hfilter := h.filter fun m => m.1 == key.toList
  unfold member?
  generalize ms.filter (fun m => m.1 == key.toList) = a at hfilter ⊢
  generalize ms'.filter (fun m => m.1 == key.toList) = b at hfilter ⊢
  match a, b with
  | [], b => rw [List.nil_perm.mp hfilter]
  | [m], b => rw [List.singleton_perm.mp hfilter]
  | _ :: _ :: _, [] => exact absurd hfilter.length_eq (by simp)
  | _ :: _ :: _, [_] => exact absurd hfilter.length_eq (by simp)
  | _ :: _ :: _, _ :: _ :: _ => rfl

theorem member?_cons_of_ne {key : String} {k : List Char} (hk : k ≠ key.toList) (n : Node)
    (ms : List (List Char × Node)) : member? key ((k, n) :: ms) = member? key ms := by
  have hfilter : ((k, n) :: ms).filter (fun m => m.1 == key.toList) =
      ms.filter fun m => m.1 == key.toList :=
    List.filter_cons_of_neg (by simpa using hk)
  rw [member?, hfilter, member?]

theorem member?_map_toList (key : String) (ms : List (String × Node)) :
    member? key (ms.map fun m => (m.1.toList, m.2)) =
      match ms.filter fun m => m.1 == key with
      | [] => some none
      | [m] => some (some m.2)
      | _ => none := by
  have hsame : ((fun m : List Char × Node => m.1 == key.toList) ∘
      fun m : String × Node => (m.1.toList, m.2)) = fun m => m.1 == key := by
    funext m
    simp only [Function.comp_apply, beq_eq_decide, String.toList_inj]
  rw [member?, List.filter_map, hsame]
  generalize ms.filter (fun m => m.1 == key) = found
  match found with
  | [] => rfl
  | [m] => rfl
  | _ :: _ :: _ => rfl

end Yaml.V11

namespace Condition

open Yaml.V11 (Document Node member?)

/-! ### Operands -/

theorem operandOfNode?_scalar (d : Document) (tag : Option Yaml.V11.Tag) (plain : Bool)
    (cs : List Char) :
    operandOfNode? d (.scalar tag plain cs) =
      match Yaml.V11.scalarMeaning? tag plain cs with
      | some .null =>
        some (if plain && tag.all (· == Yaml.V11.schemaTag "null") then none else some .null)
      | some (.int i) => some (some (.number (.ofInt i)))
      | some (.float x) => some (some (.number x))
      | some (.text cs) => some (some (.text (String.ofList cs)))
      | _ => none := rfl

theorem operandOfNode?_quoted (d : Document) (s : String) :
    operandOfNode? d (.scalar none false s.toList) = some (some (.text s)) := by
  rw [operandOfNode?_scalar]
  exact congrArg (fun s => some (some (Value.text s))) String.ofList_toList

theorem operandOfNode?_int (d : Document) {i : Int}
    (h : (fitsSigned 64 i || fitsUnsigned 64 i) = true) :
    operandOfNode? d (.scalar none true (Text.intDigits i)) = some (some (.number (.ofInt i))) := by
  have hmeaning : Yaml.V11.scalarMeaning? none true (Text.intDigits i) = some (.int i) :=
    congrArg some (Yaml.V11.plainMeaning_intDigits h)
  rw [operandOfNode?_scalar, hmeaning]

/-- **No operand of a YAML text is a date-time.** -/
theorem ne_time_of_operandOfNode? {d : Document} {n : Node} {v : Value}
    (h : operandOfNode? d n = some (some v)) (t : DateTime) : v ≠ .time t := by
  rintro rfl
  unfold operandOfNode? at h
  split at h
  · split at h
    · have hnull := Option.some.inj h
      split_ifs at hnull
      exact nomatch hnull
    all_goals exact nomatch h
  · exact nomatch h

/-! ### Conditions -/

/-- The keys of the parts of a condition. -/
def keys : List String := ["identifier", "value_type", "operator", "operand", "secondary_operand"]

/-- Only what stands under the keys of its parts counts for a condition. -/
theorem ofMembers?_congr (d : Document) {ms ms' : List (List Char × Node)}
    (h : ∀ key ∈ keys, member? key ms = member? key ms') : ofMembers? d ms = ofMembers? d ms' := by
  unfold ofMembers?
  rw [h "identifier" (by decide), h "value_type" (by decide), h "operator" (by decide),
    h "operand" (by decide), h "secondary_operand" (by decide)]

/-- **The order of the pairs does not matter.** -/
theorem ofNode?_perm {ps qs : List (Node × Node)} (h : ps.Perm qs) (d : Document)
    (tag : Option Yaml.V11.Tag) : ofNode? d (.mapping tag ps) = ofNode? d (.mapping tag qs) := by
  cases hp : d.members? (.mapping tag ps) with
  | some ms =>
    obtain ⟨ms', hq, hperm⟩ := Yaml.V11.mapM_perm h hp
    have hq' : d.members? (.mapping tag qs) = some ms' := hq
    rw [ofNode?, ofNode?, hp, hq', Option.bind_some, Option.bind_some]
    exact ofMembers?_congr d fun key _ => Yaml.V11.member?_perm hperm.symm key
  | none =>
    cases hq : d.members? (.mapping tag qs) with
    | none => rw [ofNode?, hp, ofNode?, hq]
    | some ms =>
      obtain ⟨ms', hp', -⟩ := Yaml.V11.mapM_perm h.symm hq
      exact nomatch hp.symm.trans hp'

/-- A pair whose key is that of no part is passed over. -/
theorem ofNode?_cons_other {d : Document} {k : Node} {cs : List Char} (hk : d.text? k = some cs)
    (hcs : cs ∉ keys.map String.toList) (tag : Option Yaml.V11.Tag) (v : Node)
    (ps : List (Node × Node)) :
    ofNode? d (.mapping tag ((k, v) :: ps)) = ofNode? d (.mapping tag ps) := by
  have hmembers : d.members? (.mapping tag ((k, v) :: ps)) =
      (d.members? (.mapping tag ps)).map fun ms => (cs, v) :: ms := by
    unfold Document.members?
    simp only [Document.follow, List.mapM_cons, hk, Option.map_some, Option.bind_eq_bind,
      Option.bind_some]
    exact Option.map_eq_bind.symm
  rw [ofNode?, hmembers, ofNode?]
  cases d.members? (.mapping tag ps) with
  | none => rfl
  | some ms =>
    apply ofMembers?_congr
    intro key hkey
    apply Yaml.V11.member?_cons_of_ne
    rintro rfl
    exact hcs (List.mem_map_of_mem hkey)

/-! ### What a condition is written as -/

/-- A name or a text as a node, plain or in quotes. -/
def scalar (plain : Bool) (s : String) : Node := .scalar none plain s.toList

/-- A node that writes an operand: a text in quotes, or a plain whole number of 64 bits. -/
inductive Writes : Value → Node → Prop where
  | text (s : String) : Writes (.text s) (scalar false s)
  | int {i : Int} (h : (fitsSigned 64 i || fitsUnsigned 64 i) = true) :
      Writes (.number (.ofInt i)) (.scalar none true (Text.intDigits i))

theorem Writes.operandOfNode? {v : Value} {n : Node} (h : Writes v n) (d : Document) :
    Condition.operandOfNode? d n = some (some v) := by
  cases h with
  | text s => exact operandOfNode?_quoted d s
  | int h => exact operandOfNode?_int d h

/-- The members that write an operand that may be absent. -/
inductive OperandMembers (key : String) : Option Value → List (String × Node) → Prop where
  | absent : OperandMembers key none []
  | once {v : Value} {n : Node} (h : Writes v n) : OperandMembers key (some v) [(key, n)]

/-- What stands under the key of an operand that may be absent. -/
theorem optionalOfNode?_members {key : String} {v : Option Value} {ms : List (String × Node)}
    (h : OperandMembers key v ms) (d : Document) :
    optionalOfNode? d (ms.head?.map Prod.snd) = some v := by
  cases h with
  | absent => rfl
  | once h => exact h.operandOfNode? d

/-- The pairs of members, whose keys are all plain or all in quotes. -/
def pairs (plain : Bool) (ms : List (String × Node)) : List (Node × Node) :=
  ms.map fun m => (scalar plain m.1, m.2)

theorem members?_pairs (d : Document) (tag : Option Yaml.V11.Tag) (plain : Bool)
    (ms : List (String × Node)) :
    d.members? (.mapping tag (pairs plain ms)) = some (ms.map fun m => (m.1.toList, m.2)) := by
  apply Yaml.V11.mapM_eq_some_iff.mpr
  rw [pairs, List.forall₂_map_left_iff, List.forall₂_map_right_iff, List.forall₂_same]
  intro m _
  rfl

theorem nameOfNode?_scalar (d : Document) (plain : Bool) (s : String) :
    nameOfNode? d (scalar plain s) = some s := congrArg some String.ofList_toList

theorem ofMembers?_parts (d : Document) (plain : Bool) {c : Condition}
    {ms : List (List Char × Node)} {operand secondary : Option Node}
    (hidentifier : member? "identifier" ms = some (some (scalar plain c.identifier)))
    (htype : member? "value_type" ms = some (some (scalar plain c.valueType.name)))
    (hoperator : member? "operator" ms = some (some (scalar plain c.operator.name)))
    (hoperand : member? "operand" ms = some operand)
    (hsecondary : member? "secondary_operand" ms = some secondary)
    (hfirst : optionalOfNode? d operand = some c.operand)
    (hsecond : optionalOfNode? d secondary = some c.secondary) :
    ofMembers? d ms = some c := by
  have htext : d.text? (scalar plain c.identifier) = some c.identifier.toList := rfl
  unfold ofMembers?
  rw [hidentifier, htype, hoperator, hoperand, hsecondary]
  simp only [Option.bind_eq_bind, Option.bind_some, htext, nameOfNode?_scalar, hfirst, hsecond,
    ValueType.ofExactName?_name, Operator.ofExactName?_name, String.ofList_toList, Option.pure_def]

/-- **What a mapping writes is read**, in whatever order and with whatever other keys. -/
theorem ofNode?_mapping (d : Document) (tag : Option Yaml.V11.Tag) (plain : Bool) {c : Condition}
    {os ss : List (String × Node)} {others ps : List (Node × Node)}
    (hos : OperandMembers "operand" c.operand os)
    (hss : OperandMembers "secondary_operand" c.secondary ss)
    (hothers : ∀ p ∈ others, ∃ cs, d.text? p.1 = some cs ∧ cs ∉ keys.map String.toList)
    (hperm : ps.Perm (others ++ pairs plain ([("identifier", scalar plain c.identifier),
      ("value_type", scalar plain c.valueType.name),
      ("operator", scalar plain c.operator.name)] ++ os ++ ss))) :
    ofNode? d (.mapping tag ps) = some c := by
  rw [ofNode?_perm hperm]
  clear hperm
  induction others with
  | nil =>
    have hfirst := optionalOfNode?_members hos d
    have hsecond := optionalOfNode?_members hss d
    obtain ⟨identifier, valueType, operator, operand, secondary⟩ := c
    rw [List.nil_append, ofNode?, members?_pairs, Option.bind_some]
    refine ofMembers?_parts d plain ?_ ?_ ?_ ?_ ?_ hfirst hsecond
    all_goals
      rw [Yaml.V11.member?_map_toList]
      cases hos <;> cases hss <;> rfl
  | cons p others ih =>
    obtain ⟨cs, hk, hcs⟩ := hothers p List.mem_cons_self
    rw [List.cons_append, ofNode?_cons_other hk hcs]
    exact ih fun q hq => hothers q (List.mem_cons_of_mem p hq)

/-! ### Lists -/

/-- **A list is read item by item**, and not at all if an item is no condition. -/
theorem readYamlList?_eq_some_iff {cs : List Char} {conditions : List Condition} :
    readYamlList? cs = some conditions ↔
      (Document.read? cs = some none ∧ conditions = []) ∨
        ∃ d ns, Document.read? cs = some (some d) ∧ d.items? d.root = some ns ∧
          List.Forall₂ (fun n c => ofNode? d n = some c) ns conditions := by
  unfold readYamlList?
  cases Document.read? cs with
  | none => simp
  | some document =>
    cases document with
    | none => simp [eq_comm]
    | some d => simp [Option.bind_eq_some_iff, Yaml.V11.mapM_eq_some_iff]

/-- The operands of a condition are those that stand under their keys. -/
theorem operands_of_ofMembers? {d : Document} {ms : List (List Char × Node)} {c : Condition}
    (h : ofMembers? d ms = some c) :
    ∃ o s, (member? "operand" ms = some o ∧ optionalOfNode? d o = some c.operand) ∧
      member? "secondary_operand" ms = some s ∧ optionalOfNode? d s = some c.secondary := by
  simp only [ofMembers?, Option.bind_eq_bind, Option.bind_eq_some_iff, Option.pure_def,
    Option.some.injEq] at h
  obtain ⟨_, -, _, -, _, -, _, -, _, -, _, -, h⟩ := h
  obtain ⟨_, -, _, -, _, -, o, ho, v, hv, s, hs, u, hu, rfl⟩ := h
  exact ⟨o, s, ⟨ho, hv⟩, hs, hu⟩

/-- No condition of a YAML text has a date-time for an operand. -/
theorem ne_time_of_readYamlList? {cs : List Char} {conditions : List Condition}
    (h : readYamlList? cs = some conditions) {c : Condition} (hc : c ∈ conditions)
    (t : DateTime) : c.operand ≠ some (.time t) ∧ c.secondary ≠ some (.time t) := by
  rcases readYamlList?_eq_some_iff.mp h with ⟨-, rfl⟩ | ⟨d, ns, -, -, hns⟩
  · exact nomatch hc
  have hoptional : ∀ {o : Option Node} {v : Option Value}, optionalOfNode? d o = some v →
      v ≠ some (.time t) := by
    rintro o v ho rfl
    cases o with
    | none => exact nomatch ho
    | some n => exact ne_time_of_operandOfNode? ho t rfl
  obtain ⟨n, -, hn⟩ : ∃ n ∈ ns, ofNode? d n = some c := by
    clear h
    induction hns with
    | nil => exact nomatch hc
    | @cons n _ ns _ hn _ ih =>
      rcases List.mem_cons.mp hc with rfl | hc
      · exact ⟨n, List.mem_cons_self, hn⟩
      · obtain ⟨m, hm, hm'⟩ := ih hc
        exact ⟨m, List.mem_cons_of_mem n hm, hm'⟩
  obtain ⟨ms, -, hms⟩ := Option.bind_eq_some_iff.mp hn
  obtain ⟨o, s, ⟨-, ho⟩, -, hs⟩ := operands_of_ofMembers? hms
  exact ⟨hoptional ho, hoptional hs⟩

end Condition

end Criteria
