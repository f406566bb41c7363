import Terrasync.Web.ConditionSerializer

/-! When groups of conditions survive being written and read. The reader only removes blanks,
quotes, parentheses and whole tokens, so it never gains a character other than a quote: groups
come back unchanged only if nothing of their text is lost on the way. -/

set_option autoImplicit false

namespace Terrasync.Web.ConditionBuilder

open Lib

/-! ### What survives -/

/-- No blank at either end. -/
def Bare (text : Text) : Prop :=
  (∀ character ∈ text.head?, isBlank character = false) ∧ ∀ character ∈ text.getLast?, isBlank character = false

/-- A text with an operator between blanks, at its first occurrence. -/
structure CutAt (operator text before after : Text) : Prop where
  whole : text = before ++ spaced operator ++ after
  first : ¬ spaced operator <:+: before ++ (spaced operator).dropLast

/-- The operators that are looked for in front of this one. -/
def earlier (operator : Text) : List Text := operators.takeWhile fun other => other ≠ operator

/-- A condition that can be told from its text. -/
structure Legible (c : Condition) : Prop where
  listed : c.operator ∈ operators
  field : Bare c.field
  unquoted : formattedValue c = c.value → Bare c.value ∧ isEnclosed c.value = false
  first : ¬ spaced c.operator <:+: c.field ++ (spaced c.operator).dropLast
  /-- An operator that is looked for earlier has nothing but quotes behind it. -/
  passed : ∀ operator ∈ earlier c.operator, ∀ before after,
    CutAt operator (c.field ++ spaced c.operator ++ formattedValue c) before after →
    trim after = ['"'] ∨ trim after = ['"', '"']

/-- The text of a group in which nothing is missing. -/
def groupText (g : ConditionGroup) : Text := andBreak.intercalate (g.conditions.map serializeCondition)

structure ConditionGroup.Legible (g : ConditionGroup) : Prop where
  separated : Separated andBreak (g.conditions.map serializeCondition)
  conditions : ∀ c ∈ g.conditions, ConditionBuilder.Legible c

def Faithful : List ConditionGroup → Prop
  | [] => True
  | [g] => g.Legible ∧ ¬ groupBreak <:+: groupText g ∧ (groupText g).head? ≠ some '(' ∧
      (groupText g).getLast? ≠ some ')'
  | groups => (∀ g ∈ groups, g.Legible) ∧ Separated groupBreak (groups.map groupText)

/-- Incomplete conditions are removed, then the groups that are empty. -/
def normalize (groups : List ConditionGroup) : List ConditionGroup :=
  (groups.map fun g => ConditionGroup.mk (g.conditions.filter Condition.isComplete)).filter fun g => g.conditions ≠ []

structure ConditionGroup.Normal (g : ConditionGroup) : Prop where
  nonempty : g.conditions ≠ []
  complete : ∀ c ∈ g.conditions, c.isComplete = true

/-! ### Weights -/

/-- Every character but a quote has weight. -/
def heavy (character : Char) : Bool := character ≠ '"'

def weight (text : Text) : Nat := text.countP heavy

@[simp] theorem weight_append (front back : Text) : weight (front ++ back) = weight front + weight back :=
  List.countP_append

theorem heavy_of_blank {character : Char} (blank : isBlank character = true) : heavy character = true := by
  refine decide_eq_true ?_
  rintro rfl
  exact absurd blank (by decide)

theorem weight_dropWhile_le (text : Text) : weight (text.dropWhile isBlank) ≤ weight text :=
  (List.dropWhile_sublist isBlank).countP_le

/-- Where no weight is lost, no blank was removed. -/
theorem dropWhile_of_weight {text : Text} (kept : weight text ≤ weight (text.dropWhile isBlank)) :
    text.dropWhile isBlank = text := by
  cases text with
  | nil => rfl
  | cons character rest =>
      cases blank : isBlank character with
      | false => rw [List.dropWhile_cons_of_neg (by rw [blank]; exact Bool.false_ne_true)]
      | true =>
          rw [List.dropWhile_cons_of_pos blank] at kept
          have less := weight_dropWhile_le rest
          have more : weight (character :: rest) = weight rest + 1 := List.countP_cons_of_pos (heavy_of_blank blank)
          omega

theorem weight_reverse (text : Text) : weight text.reverse = weight text := List.countP_reverse

theorem weight_rdropWhile (text : Text) :
    weight (text.rdropWhile isBlank) = weight (text.reverse.dropWhile isBlank) := weight_reverse _

theorem weight_trim_le (text : Text) : weight (trim text) ≤ weight text := by
  have back := weight_dropWhile_le (text.dropWhile isBlank).reverse
  have front := weight_dropWhile_le text
  rw [weight_reverse] at back
  rw [trim, weight_rdropWhile]
  omega

theorem trim_of_weight {text : Text} (kept : weight text ≤ weight (trim text)) : trim text = text := by
  have back := weight_dropWhile_le (text.dropWhile isBlank).reverse
  have front := weight_dropWhile_le text
  rw [weight_reverse] at back
  rw [trim, weight_rdropWhile] at kept
  have unchanged := dropWhile_of_weight (show weight text ≤ weight (text.dropWhile isBlank) by omega)
  rw [unchanged] at kept
  have reversed : text.reverse.dropWhile isBlank = text.reverse :=
    dropWhile_of_weight (by rw [weight_reverse]; exact kept)
  rw [trim, unchanged, List.rdropWhile, reversed, List.reverse_reverse]

theorem weight_quote (value : Text) : weight (quote value) = weight value := by
  rw [quote, List.cons_append, weight, List.countP_cons_of_neg (by decide), List.countP_append]
  rfl

theorem weight_formattedValue (c : Condition) : weight (formattedValue c) = weight c.value := by
  rw [formattedValue]
  split
  · exact weight_quote _
  · split
    · rfl
    · split
      · split
        · rfl
        · exact weight_quote _
      · rfl

theorem isEnclosed_cases {value : Text} (enclosed : isEnclosed value = true) :
    value = ['"'] ∨ ∃ inner, value = quote inner := by
  rw [isEnclosed, Bool.and_eq_true, beq_iff_eq, beq_iff_eq] at enclosed
  obtain ⟨first, last⟩ := enclosed
  obtain ⟨rest, rfl⟩ := List.head?_eq_some_iff.mp first
  cases rest using List.reverseRecOn with
  | nil => exact Or.inl rfl
  | append_singleton inner character =>
      rw [← List.cons_append, List.getLast?_concat] at last
      rw [Option.some.inj last]
      exact Or.inr ⟨inner, rfl⟩

theorem isEnclosed_quote (inner : Text) : isEnclosed (quote inner) = true := by
  rw [isEnclosed, quote, List.getLast?_concat]
  rfl

theorem unquote_quote (inner : Text) : unquote (quote inner) = inner := by
  rw [unquote, if_pos (isEnclosed_quote inner), quote, List.cons_append, List.tail_cons, List.dropLast_concat]

theorem weight_unquote (value : Text) : weight (unquote value) = weight value := by
  cases enclosed : isEnclosed value with
  | false => rw [unquote, if_neg (by rw [enclosed]; exact Bool.false_ne_true)]
  | true =>
      obtain rfl | ⟨inner, rfl⟩ := isEnclosed_cases enclosed
      · rfl
      · rw [unquote_quote, weight_quote]

theorem unquote_eq_nil {value : Text} : unquote value = [] ↔ value = [] ∨ value = ['"'] ∨ value = ['"', '"'] := by
  constructor
  · intro empty
    cases enclosed : isEnclosed value with
    | false =>
        rw [unquote, if_neg (by rw [enclosed]; exact Bool.false_ne_true)] at empty
        exact Or.inl empty
    | true =>
        obtain rfl | ⟨inner, rfl⟩ := isEnclosed_cases enclosed
        · exact Or.inr (Or.inl rfl)
        · rw [unquote_quote] at empty
          rw [empty]
          exact Or.inr (Or.inr rfl)
  · rintro (rfl | rfl | rfl) <;> rfl

/-! ### Blanks -/

theorem dropWhile_eq_self {text : Text} :
    text.dropWhile isBlank = text ↔ ∀ character ∈ text.head?, isBlank character = false := by
  cases text with
  | nil => exact ⟨fun _ _ member => (nomatch member), fun _ => rfl⟩
  | cons character rest =>
      rw [List.head?_cons]
      constructor
      · intro same first member
        obtain rfl := Option.some.inj member
        cases blank : isBlank character with
        | false => rfl
        | true =>
            rw [List.dropWhile_cons_of_pos blank] at same
            have length := (List.dropWhile_sublist isBlank (l := rest)).length_le
            rw [same, List.length_cons] at length
            omega
      · intro bare
        rw [List.dropWhile_cons_of_neg (by rw [bare character rfl]; exact Bool.false_ne_true)]

theorem trim_eq_self {text : Text} : trim text = text ↔ Bare text := by
  have back : text.rdropWhile isBlank = text ↔ ∀ character ∈ text.getLast?, isBlank character = false := by
    rw [List.rdropWhile, List.reverse_eq_iff, dropWhile_eq_self, List.head?_reverse]
  constructor
  · intro same
    have front : text.dropWhile isBlank = text := by
      apply dropWhile_of_weight
      have lost := weight_dropWhile_le (text.dropWhile isBlank).reverse
      rw [weight_reverse, ← weight_rdropWhile, ← trim, same] at lost
      exact lost
    refine ⟨dropWhile_eq_self.mp front, back.mp ?_⟩
    rw [trim, front] at same
    exact same
  · rintro ⟨first, last⟩
    rw [trim, dropWhile_eq_self.mpr first, back.mpr last]

theorem trim_eq_nil {text : Text} : trim text = [] ↔ ∀ character ∈ text, isBlank character = true := by
  rw [trim, List.rdropWhile_eq_nil_iff]
  constructor
  · intro blanks character member
    rw [← List.takeWhile_append_dropWhile (p := isBlank) (l := text)] at member
    obtain front | back := List.mem_append.mp member
    · exact List.mem_takeWhile_imp front
    · exact blanks character back
  · intro blanks character member
    exact blanks character ((List.dropWhile_sublist isBlank).mem member)

theorem Bare.append {front back : Text} (middle : Text) (first : Bare front) (last : Bare back) (some_ : front ≠ [])
    (some' : back ≠ []) : Bare (front ++ middle ++ back) := by
  constructor
  · rw [List.append_assoc, List.head?_append_of_ne_nil _ some_]
    exact first.1
  · rw [List.getLast?_append_of_ne_nil _ some']
    exact last.2

/-- A bare text has more than blanks in front of what starts with a blank. -/
theorem trim_ne_nil_of_bare {before after : Text} (bare : Bare (before ++ ' ' :: after)) : trim before ≠ [] := by
  intro empty
  cases before with
  | nil => exact absurd (bare.1 ' ' rfl) (by decide)
  | cons character rest =>
      have blank := trim_eq_nil.mp empty character List.mem_cons_self
      rw [bare.1 character rfl] at blank
      exact Bool.false_ne_true blank

theorem trim_ne_nil_of_bare' {before after : Text} (bare : Bare (before ++ [' '] ++ after)) : trim after ≠ [] := by
  intro empty
  cases after using List.reverseRecOn with
  | nil =>
      rw [List.append_nil] at bare
      exact absurd (bare.2 ' ' List.getLast?_concat) (by decide)
  | append_singleton rest character =>
      have blank := trim_eq_nil.mp empty character List.mem_concat_self
      rw [← List.append_assoc] at bare
      rw [bare.2 character List.getLast?_concat] at blank
      exact Bool.false_ne_true blank

/-! ### One condition -/

theorem spaced_ne_nil (operator : Text) : spaced operator ≠ [] := List.cons_ne_nil _ _

theorem length_spaced (operator : Text) : (spaced operator).length = operator.length + 2 := by
  simp only [spaced, List.cons_append, List.length_cons, List.length_append, List.length_nil]

theorem cutAt_of_infix {operator text : Text} (occurs : spaced operator <:+: text) :
    ∃ before after, CutAt operator text before after := by
  obtain ⟨before, after, whole, first⟩ := first_occurrence (spaced_ne_nil operator) occurs
  exact ⟨before, after, whole, first⟩

theorem readAt_cut {operator text before after : Text} (cut : CutAt operator text before after) :
    readAt operator text =
      if trim before ≠ [] ∧ unquote (trim after) ≠ [] then
        some ⟨trim before, operator, unquote (trim after)⟩ else none := by
  have width : before.length + operator.length + 2 = (before ++ spaced operator).length := by
    rw [List.length_append, length_spaced, Nat.add_assoc]
  have front : (before ++ spaced operator ++ after).take before.length = before := by
    rw [List.append_assoc, List.take_left]
  rw [readAt, cut.whole, indexOf_append after cut.first]
  simp only [width, front, List.drop_left]

theorem readAt_absent {operator text : Text} (absent : ¬ spaced operator <:+: text) : readAt operator text = none := by
  rw [readAt, indexOf_free absent]

theorem readAt_some {operator text : Text} {c : Condition} (result : readAt operator text = some c) :
    ∃ before after, CutAt operator text before after ∧ c = ⟨trim before, operator, unquote (trim after)⟩ ∧
      trim before ≠ [] ∧ unquote (trim after) ≠ [] := by
  by_cases occurs : spaced operator <:+: text
  · obtain ⟨before, after, cut⟩ := cutAt_of_infix occurs
    rw [readAt_cut cut] at result
    split at result
    case isTrue present => exact ⟨before, after, cut, (Option.some.inj result).symm, present⟩
    case isFalse => cases result
  · rw [readAt_absent occurs] at result
    cases result

theorem operators_nodup : operators.Nodup := by decide

theorem operator_ne_nil {operator : Text} (listed : operator ∈ operators) : operator ≠ [] := by
  rintro rfl
  exact absurd listed (by decide)

theorem earlier_of_split {operator : Text} {front back : List Text} (split : operators = front ++ operator :: back) :
    earlier operator = front := by
  have nodup := operators_nodup
  rw [split, List.nodup_append] at nodup
  rw [earlier, split, List.takeWhile_append_of_pos, List.takeWhile_cons_of_neg (by simp), List.append_nil]
  intro other member
  exact decide_eq_true (nodup.2.2 other member operator List.mem_cons_self)

/-- The first operator that reads a condition decides. -/
theorem deserializeCondition_eq_some {token : Text} {c : Condition} :
    deserializeCondition token = some c ↔ c.operator ∈ operators ∧ readAt c.operator (trim token) = some c ∧
      ∀ operator ∈ earlier c.operator, readAt operator (trim token) = none := by
  constructor
  · intro result
    rw [deserializeCondition] at result
    split at result
    case isTrue => cases result
    case isFalse =>
      obtain ⟨front, operator, back, split, found, passed⟩ := List.findSome?_eq_some_iff.mp result
      obtain ⟨before, after, cut, rfl, present⟩ := readAt_some found
      refine ⟨split ▸ List.mem_append_right _ List.mem_cons_self, found, ?_⟩
      rw [earlier_of_split split]
      exact passed
  · rintro ⟨listed, found, passed⟩
    obtain ⟨front, back, split⟩ := List.append_of_mem listed
    rw [earlier_of_split split] at passed
    rw [deserializeCondition, if_neg]
    · exact List.findSome?_eq_some_iff.mpr ⟨front, c.operator, back, split, found, passed⟩
    · intro empty
      obtain ⟨before, after, cut, _⟩ := readAt_some found
      have nothing := cut.whole
      rw [empty] at nothing
      exact List.append_ne_nil_of_left_ne_nil
        (List.append_ne_nil_of_right_ne_nil before (spaced_ne_nil c.operator)) after nothing.symm

theorem complete_of_read {token : Text} {c : Condition} (result : deserializeCondition token = some c) :
    c.isComplete = true := by
  obtain ⟨listed, found, _⟩ := deserializeCondition_eq_some.mp result
  obtain ⟨before, after, cut, same, field, value⟩ := readAt_some found
  rw [Condition.isComplete, Bool.and_eq_true, Bool.and_eq_true]
  refine ⟨⟨decide_eq_true ?_, decide_eq_true (operator_ne_nil listed)⟩, decide_eq_true ?_⟩
  · rw [same]
    exact field
  · rw [same]
    exact value

theorem weight_serializeCondition (c : Condition) :
    weight (serializeCondition c) = weight c.field + weight (spaced c.operator) + weight c.value := by
  rw [serializeCondition, weight_append, weight_append, weight_formattedValue]

/-- Both sides of the operator keep their weight if the whole token does. -/
theorem weights_of_cut {token before after : Text} {operator : Text}
    (cut : CutAt operator (trim token) before after) :
    weight before + weight (spaced operator) + weight after ≤ weight token := by
  have less := weight_trim_le token
  rw [cut.whole, weight_append, weight_append] at less
  exact less

theorem costly_condition : Costly heavy serializeCondition deserializeCondition := by
  intro token c result
  obtain ⟨_, found, _⟩ := deserializeCondition_eq_some.mp result
  obtain ⟨before, after, cut, same, _⟩ := readAt_some found
  have whole := weights_of_cut cut
  have field := weight_trim_le before
  have value := weight_trim_le after
  change weight (serializeCondition c) ≤ weight token
  rw [weight_serializeCondition, same]
  simp only [weight_unquote]
  omega

theorem formattedValue_cases (c : Condition) :
    formattedValue c = quote c.value ∨ formattedValue c = c.value := by
  rw [formattedValue]
  split
  · exact Or.inl rfl
  · split
    · exact Or.inr rfl
    · split
      · split
        · exact Or.inr rfl
        · exact Or.inl rfl
      · exact Or.inr rfl

theorem quote_ne_self (value : Text) : quote value ≠ value := by
  intro same
  have length := congrArg List.length same
  rw [quote, List.length_append, List.length_cons] at length
  omega

theorem bare_quote (value : Text) : Bare (quote value) := by
  constructor
  · intro character member
    rw [← Option.some.inj member]
    rfl
  · intro character member
    rw [quote, List.getLast?_concat] at member
    rw [← Option.some.inj member]
    rfl

/-- The written value is read back as it was exactly when it has quotes or needs none. -/
theorem value_reads_back {c : Condition} :
    (Bare (formattedValue c) ∧ unquote (formattedValue c) = c.value) ↔
      (formattedValue c = c.value → Bare c.value ∧ isEnclosed c.value = false) := by
  obtain quoted | raw := formattedValue_cases c
  · rw [quoted]
    exact ⟨fun _ same => absurd same (quote_ne_self c.value), fun _ => ⟨bare_quote _, unquote_quote _⟩⟩
  · rw [raw]
    constructor
    · rintro ⟨bare, same⟩ -
      refine ⟨bare, ?_⟩
      cases enclosed : isEnclosed c.value with
      | false => rfl
      | true =>
          obtain single | ⟨inner, double⟩ := isEnclosed_cases enclosed
          · rw [single] at same
            cases same
          · rw [double, unquote_quote] at same
            exact absurd same.symm (quote_ne_self inner)
    · intro plain
      obtain ⟨bare, open_⟩ := plain rfl
      refine ⟨bare, ?_⟩
      rw [unquote, if_neg (by rw [open_]; exact Bool.false_ne_true)]

theorem formattedValue_ne_nil {c : Condition} (some_ : c.value ≠ []) : formattedValue c ≠ [] := by
  obtain quoted | raw := formattedValue_cases c
  · rw [quoted]
    exact List.cons_ne_nil _ _
  · rw [raw]
    exact some_

theorem parts_of_complete {c : Condition} (complete : c.isComplete = true) : c.field ≠ [] ∧ c.value ≠ [] := by
  rw [Condition.isComplete, Bool.and_eq_true, Bool.and_eq_true] at complete
  exact ⟨of_decide_eq_true complete.1.1, of_decide_eq_true complete.2⟩

/-- Of two operators in a bare text, the one that reads nothing has only quotes behind it. -/
theorem readAt_eq_none {operator text : Text} (bare : Bare text) :
    readAt operator text = none ↔
      ∀ before after, CutAt operator text before after → trim after = ['"'] ∨ trim after = ['"', '"'] := by
  constructor
  · intro unread before after cut
    have field : trim before ≠ [] := by
      have whole := cut.whole
      rw [spaced, List.append_assoc, List.append_assoc] at whole
      exact trim_ne_nil_of_bare (whole ▸ bare)
    have value : trim after ≠ [] := by
      have whole := cut.whole
      rw [spaced, ← List.append_assoc] at whole
      exact trim_ne_nil_of_bare' (whole ▸ bare)
    rw [readAt_cut cut] at unread
    split at unread
    case isTrue => cases unread
    case isFalse missing =>
      have empty : unquote (trim after) = [] := by
        by_contra present
        exact missing ⟨field, present⟩
      exact (unquote_eq_nil.mp empty).resolve_left value
  · intro quotes
    by_cases occurs : spaced operator <:+: text
    · obtain ⟨before, after, cut⟩ := cutAt_of_infix occurs
      rw [readAt_cut cut, if_neg]
      rintro ⟨_, present⟩
      exact present (unquote_eq_nil.mpr (Or.inr (quotes before after cut)))
    · exact readAt_absent occurs

theorem Legible.bare {c : Condition} (legible : Legible c) (complete : c.isComplete = true) :
    Bare (serializeCondition c) := by
  obtain ⟨fieldPresent, valuePresent⟩ := parts_of_complete complete
  exact legible.field.append _ (value_reads_back.mpr legible.unquoted).1 fieldPresent
    (formattedValue_ne_nil valuePresent)

/-- A complete condition is read back from its text exactly when it is legible. -/
theorem condition_reads_back {c : Condition} (complete : c.isComplete = true) :
    deserializeCondition (serializeCondition c) = some c ↔ Legible c := by
  obtain ⟨fieldPresent, valuePresent⟩ := parts_of_complete complete
  rw [deserializeCondition_eq_some]
  constructor
  · rintro ⟨listed, found, passed⟩
    obtain ⟨before, after, cut, same, _⟩ := readAt_some found
    -- the weights of the text and of what was read agree, so nothing was removed
    have whole := weights_of_cut cut
    have front := weight_trim_le before
    have back := weight_trim_le after
    have field : c.field = trim before := congrArg Condition.field same
    have value : c.value = unquote (trim after) := congrArg Condition.value same
    rw [weight_serializeCondition, field, value, weight_unquote] at whole
    have beforeBare : trim before = before := trim_of_weight (by omega)
    have afterBare : trim after = after := trim_of_weight (by omega)
    have tokenBare : trim (serializeCondition c) = serializeCondition c := by
      apply trim_of_weight
      rw [cut.whole, weight_append, weight_append, weight_serializeCondition, field, value, weight_unquote,
        beforeBare, afterBare]
    rw [beforeBare] at field
    rw [afterBare] at value
    obtain ⟨text, first⟩ := cut
    rw [tokenBare, serializeCondition, field] at text
    have behind : formattedValue c = after := List.append_cancel_left text
    have valueBack := value_reads_back.mp
      ⟨by rw [behind]; exact trim_eq_self.mp afterBare, by rw [behind, value]⟩
    have textBare := trim_eq_self.mp tokenBare
    rw [tokenBare] at passed
    refine ⟨listed, by rw [field]; exact trim_eq_self.mp beforeBare, valueBack, by rw [field]; exact first, ?_⟩
    intro operator member
    exact (readAt_eq_none textBare).mp (passed operator member)
  · intro legible
    obtain ⟨valueBare, valueBack⟩ := value_reads_back.mpr legible.unquoted
    have textBare := legible.bare complete
    have cut : CutAt c.operator (serializeCondition c) c.field (formattedValue c) := ⟨rfl, legible.first⟩
    rw [trim_eq_self.mpr textBare]
    refine ⟨legible.listed, ?_, fun operator member => (readAt_eq_none textBare).mpr (legible.passed operator member)⟩
    rw [readAt_cut cut, trim_eq_self.mpr legible.field, trim_eq_self.mpr valueBare, valueBack,
      if_pos ⟨fieldPresent, valuePresent⟩]

/-! ### One group -/

def readConditions (gs : Text) : List Condition := (splitAll andBreak gs).filterMap deserializeCondition

/-- A group that is not dropped for want of conditions. -/
def readGroup (part : Text) : Option ConditionGroup :=
  if readConditions (trim part) = [] then none else some ⟨readConditions (trim part)⟩

theorem andBreak_eq : andBreak = ' ' :: "and ".toList := by decide

theorem groupBreak_eq : groupBreak = ')' :: " or (".toList := by decide

theorem readGroup_eq_some {part : Text} {g : ConditionGroup} :
    readGroup part = some g ↔ readConditions (trim part) = g.conditions ∧ g.conditions ≠ [] := by
  rw [readGroup]
  split
  case isTrue empty =>
    rw [empty]
    exact ⟨fun absent => (nomatch absent), fun present => absurd present.1.symm present.2⟩
  case isFalse present =>
    rw [Option.some.injEq]
    constructor
    · rintro rfl
      exact ⟨rfl, present⟩
    · rintro ⟨same, _⟩
      rw [same]

theorem groupText_le_of_read {part : Text} {g : ConditionGroup} (nonempty : g.conditions ≠ [])
    (result : readConditions part = g.conditions) : weight (groupText g) ≤ weight part :=
  written_le_of_read costly_condition (by rw [andBreak_eq]; exact List.cons_ne_nil _ _) nonempty result

theorem costly_group : Costly heavy groupText readGroup := by
  intro part g result
  obtain ⟨read, nonempty⟩ := readGroup_eq_some.mp result
  exact (groupText_le_of_read nonempty read).trans (weight_trim_le part)

theorem conditions_read_back {g : ConditionGroup} (normal : g.Normal) :
    readConditions (groupText g) = g.conditions ↔ g.Legible := by
  rw [readConditions, groupText, andBreak_eq,
    read_written_iff costly_condition (show heavy ' ' = true by decide) normal.nonempty, ← andBreak_eq]
  constructor
  · rintro ⟨separated, reads⟩
    exact ⟨separated, fun c member => (condition_reads_back (normal.complete c member)).mp (reads c member)⟩
  · rintro ⟨separated, legible⟩
    exact ⟨separated, fun c member => (condition_reads_back (normal.complete c member)).mpr (legible c member)⟩

theorem bare_intercalate (separator : Text) {parts : List Text} (some_ : parts ≠ [])
    (bare : ∀ part ∈ parts, Bare part ∧ part ≠ []) :
    Bare (separator.intercalate parts) ∧ separator.intercalate parts ≠ [] := by
  induction parts with
  | nil => exact absurd rfl some_
  | cons part parts ih =>
      cases parts with
      | nil =>
          rw [List.intercalate_singleton]
          exact bare part List.mem_cons_self
      | cons next others =>
          obtain ⟨first, present⟩ := bare part List.mem_cons_self
          obtain ⟨last, present'⟩ := ih (List.cons_ne_nil _ _)
            fun other member => bare other (List.mem_cons_of_mem _ member)
          rw [List.intercalate_cons_cons]
          exact ⟨first.append separator last present present', List.append_ne_nil_of_right_ne_nil _ present'⟩

theorem serializeCondition_ne_nil (c : Condition) : serializeCondition c ≠ [] := by
  rw [serializeCondition, List.append_assoc]
  exact List.append_ne_nil_of_right_ne_nil _ (List.append_ne_nil_of_left_ne_nil (spaced_ne_nil _) _)

theorem ConditionGroup.Legible.bare {g : ConditionGroup} (legible : g.Legible) (normal : g.Normal) :
    Bare (groupText g) := by
  refine (bare_intercalate andBreak ?_ ?_).1
  · exact fun empty => normal.nonempty (List.map_eq_nil_iff.mp empty)
  · intro part member
    obtain ⟨c, listed, rfl⟩ := List.mem_map.mp member
    exact ⟨(legible.conditions c listed).bare (normal.complete c listed), serializeCondition_ne_nil c⟩

theorem group_reads_back {g : ConditionGroup} (normal : g.Normal) :
    readGroup (groupText g) = some g ↔ g.Legible := by
  rw [readGroup_eq_some]
  constructor
  · rintro ⟨read, nonempty⟩
    have unchanged := trim_of_weight (groupText_le_of_read nonempty read)
    rw [unchanged] at read
    exact (conditions_read_back normal).mp read
  · intro legible
    rw [trim_eq_self.mpr (legible.bare normal)]
    exact ⟨(conditions_read_back normal).mpr legible, normal.nonempty⟩

/-! ### The groups of an expression -/

/-- The part at an index, without the parenthesis it has in front or behind. -/
def stripAt (last index : Nat) (part : Text) : Text :=
  let part := if index = 0 then dropOpening part else part
  if index = last then dropClosing part else part

/-- The parts of an expression, without the parentheses around it. -/
def stripEnds (parts : List Text) : List Text := parts.mapIdx (stripAt (parts.length - 1))

def unwrapped (trimmed : Text) : List Text :=
  if groupBreak <:+: trimmed then stripEnds (splitAll groupBreak trimmed)
  else [dropClosing (dropOpening trimmed)]

theorem groupStrings_eq (trimmed : Text) : groupStrings trimmed = (unwrapped trimmed).map trim := by
  rw [groupStrings, unwrapped]
  split
  · refine List.mapIdx_eq_iff.mpr fun index => ?_
    rw [List.getElem?_map, stripEnds, List.getElem?_mapIdx, Option.map_map]
    rfl
  · rfl

theorem filter_groups (parts : List Text) :
    ((parts.map trim).map fun gs => ConditionGroup.mk (readConditions gs)).filter (fun g => g.conditions ≠ []) =
      parts.filterMap readGroup := by
  induction parts with
  | nil => rfl
  | cons part parts ih =>
      rw [List.map_cons, List.map_cons, List.filter_cons, ih, List.filterMap_cons, readGroup]
      by_cases empty : readConditions (trim part) = []
      · simp [empty]
      · simp [empty]

theorem deserializeConditionGroups_eq (expr : Text) :
    deserializeConditionGroups expr =
      if trim expr = [] then [] else (unwrapped (trim expr)).filterMap readGroup := by
  rw [deserializeConditionGroups, groupStrings_eq, ← filter_groups]
  rfl

theorem weight_dropOpening_le (text : Text) : weight (dropOpening text) ≤ weight text := by
  rw [dropOpening]
  split
  · exact (List.tail_sublist text).countP_le
  · exact Nat.le_refl _

theorem weight_dropClosing_le (text : Text) : weight (dropClosing text) ≤ weight text := by
  rw [dropClosing]
  split
  · exact (List.dropLast_sublist text).countP_le
  · exact Nat.le_refl _

theorem head_of_dropOpening {text : Text} (kept : weight text ≤ weight (dropOpening text)) : text.head? ≠ some '(' := by
  intro opening
  obtain ⟨rest, rfl⟩ := List.head?_eq_some_iff.mp opening
  rw [dropOpening, if_pos opening, List.tail_cons] at kept
  have more : weight ('(' :: rest) = weight rest + 1 := List.countP_cons_of_pos (by decide)
  omega

theorem last_of_dropClosing {text : Text} (kept : weight text ≤ weight (dropClosing text)) :
    text.getLast? ≠ some ')' := by
  intro closing
  obtain ⟨rest, rfl⟩ := List.getLast?_eq_some_iff.mp closing
  rw [dropClosing, if_pos closing, List.dropLast_concat, weight_append] at kept
  have more : weight [')'] = 1 := by decide
  omega

/-- A text that keeps its weight has no blanks and no parenthesis to lose. -/
theorem ends_of_weight {text : Text} (kept : weight text ≤ weight (dropClosing (dropOpening (trim text)))) :
    trim text = text ∧ text.head? ≠ some '(' ∧ text.getLast? ≠ some ')' := by
  have trimmed := weight_trim_le text
  have opened := weight_dropOpening_le (trim text)
  have closed := weight_dropClosing_le (dropOpening (trim text))
  have whole : trim text = text := trim_of_weight (by omega)
  rw [whole] at opened closed kept
  have head : text.head? ≠ some '(' := head_of_dropOpening (by omega)
  rw [dropOpening, if_neg head] at kept
  exact ⟨whole, head, last_of_dropClosing kept⟩

theorem rowWeight_mapIdx_le {separator : Text} {strip : Nat → Text → Text} (parts : List Text)
    (less : ∀ index part, weight (strip index part) ≤ weight part) :
    rowWeight heavy separator (parts.mapIdx strip) ≤ rowWeight heavy separator parts := by
  induction parts generalizing strip with
  | nil => exact Nat.le_refl _
  | cons part parts ih =>
      have here : (strip 0 part).countP heavy ≤ part.countP heavy := less 0 part
      have there := @ih (fun index => strip (index + 1)) fun index => less (index + 1)
      rw [List.mapIdx_cons, rowWeight_cons, rowWeight_cons]
      omega

theorem rowWeight_stripEnds_le (separator : Text) (parts : List Text) :
    rowWeight heavy separator (stripEnds parts) ≤ rowWeight heavy separator parts := by
  refine rowWeight_mapIdx_le parts fun index part => ?_
  have opening := weight_dropOpening_le part
  rw [stripAt]
  split
  · refine (weight_dropClosing_le _).trans ?_
    split
    · exact opening
    · exact Nat.le_refl _
  · split
    · exact opening
    · exact Nat.le_refl _

theorem length_stripEnds (parts : List Text) : (stripEnds parts).length = parts.length := List.length_mapIdx

theorem groupBreak_ne_nil : groupBreak ≠ [] := by decide

/-- A text with a separator falls into two parts at least. -/
theorem two_le_length_splitAll {text : Text} (occurs : groupBreak <:+: text) :
    2 ≤ (splitAll groupBreak text).length := by
  obtain ⟨front, rest, rfl, free⟩ := first_occurrence groupBreak_ne_nil occurs
  have positive := List.length_pos_of_ne_nil (splitAll_ne_nil groupBreak_ne_nil rest)
  rw [splitAll_append rest free, List.length_cons]
  omega

theorem stripEnds_wrapped (first last : Text) (middle : List Text) :
    stripEnds (('(' :: first) :: (middle ++ [last ++ [')']])) = first :: (middle ++ [last]) := by
  have length : (('(' :: first) :: (middle ++ [last ++ [')']])).length - 1 = middle.length + 1 := by
    simp only [List.length_cons, List.length_append, List.length_nil, Nat.zero_add, Nat.add_sub_cancel]
  have opened : stripAt (middle.length + 1) 0 ('(' :: first) = first := by
    rw [stripAt, if_neg (by omega), if_pos rfl]
    rfl
  have closed : stripAt (middle.length + 1) (middle.length + 1) (last ++ [')']) = last := by
    rw [stripAt, if_pos rfl, if_neg (by omega), dropClosing, if_pos List.getLast?_concat, List.dropLast_concat]
  have inside : middle.mapIdx (fun index => stripAt (middle.length + 1) (index + 1)) = middle := by
    refine List.mapIdx_eq_iff.mpr fun index => ?_
    cases found : middle[index]? with
    | none => rfl
    | some part =>
        have bound := (List.getElem?_eq_some_iff.mp found).1
        rw [Option.map_some, stripAt, if_neg (by omega), if_neg (by omega)]
  rw [stripEnds, length, List.mapIdx_cons, List.mapIdx_concat, opened, closed, inside]

/-- What is behind the last separator is one part, also with one more character. -/
theorem splitAll_concat {symbol : Char} (other : groupBreak.getLast? ≠ some symbol) (text : Text) :
    ∃ front last, splitAll groupBreak text = front ++ [last] ∧
      splitAll groupBreak (text ++ [symbol]) = front ++ [last ++ [symbol]] := by
  induction text using split_induction groupBreak_ne_nil with
  | whole text free =>
      refine ⟨[], text, splitAll_free free, splitAll_free ?_⟩
      intro occurs
      obtain suffix | inside := List.infix_concat_iff.mp occurs
      · obtain ⟨before, same⟩ := suffix
        have last := congrArg List.getLast? same
        rw [List.getLast?_append_of_ne_nil _ groupBreak_ne_nil, List.getLast?_concat] at last
        exact other last
      · exact free inside
  | cut front rest free ih =>
      obtain ⟨others, last, parts, more⟩ := ih
      refine ⟨front :: others, last, ?_, ?_⟩
      · rw [splitAll_append rest free, parts]
        rfl
      · rw [List.append_assoc, splitAll_append _ free, more]
        rfl

/-- The parentheses around an expression with two parts stand at its ends. -/
theorem stripEnds_splitAll {text : Text} (two : 2 ≤ (splitAll groupBreak text).length) :
    stripEnds (splitAll groupBreak ('(' :: text ++ [')'])) = splitAll groupBreak text := by
  obtain ⟨front, last, parts, more⟩ := splitAll_concat (show groupBreak.getLast? ≠ some ')' by decide) text
  have opening : splitAll groupBreak ('(' :: text ++ [')']) =
      (splitAll groupBreak (text ++ [')'])).modifyHead ('(' :: ·) := by
    refine splitAll_cons fun found => ?_
    rw [groupBreak_eq] at found
    exact absurd (List.cons_prefix_cons.mp found).1 (by decide)
  rw [parts, List.length_append] at two
  cases front with
  | nil =>
      rw [List.length_nil, List.length_singleton] at two
      omega
  | cons first middle =>
      rw [opening, more, parts, List.cons_append, List.modifyHead_cons, stripEnds_wrapped]
      rfl

/-! ### What is written -/

/-- The expression of groups in which nothing is missing. -/
def written : List ConditionGroup → Text
  | [] => []
  | [g] => groupText g
  | groups => '(' :: groupBreak.intercalate (groups.map groupText) ++ [')']

theorem intercalate_wrapped {texts : List Text} (some_ : texts ≠ []) :
    " or ".toList.intercalate (texts.map fun s => '(' :: s ++ [')']) =
      '(' :: groupBreak.intercalate texts ++ [')'] := by
  have break_ : groupBreak = ')' :: " or ".toList ++ ['('] := by decide
  induction texts with
  | nil => exact absurd rfl some_
  | cons text texts ih =>
      cases texts with
      | nil => rw [List.map_singleton, List.intercalate_singleton, List.intercalate_singleton]
      | cons next others =>
          have rest := ih (List.cons_ne_nil _ _)
          rw [List.map_cons] at rest
          rw [List.map_cons, List.map_cons, List.intercalate_cons_cons, rest, List.intercalate_cons_cons, break_]
          simp only [List.cons_append, List.append_assoc, List.nil_append]

theorem groupText_ne_nil {g : ConditionGroup} (nonempty : g.conditions ≠ []) : groupText g ≠ [] := by
  cases shape : g.conditions with
  | nil => exact absurd shape nonempty
  | cons c rest =>
      rw [groupText, shape, List.map_cons]
      cases rest with
      | nil =>
          rw [List.map_nil, List.intercalate_singleton]
          exact serializeCondition_ne_nil c
      | cons next others =>
          rw [List.map_cons, List.intercalate_cons_cons, List.append_assoc]
          exact List.append_ne_nil_of_left_ne_nil (serializeCondition_ne_nil c) _

theorem normalize_cons (g : ConditionGroup) (groups : List ConditionGroup) :
    normalize (g :: groups) =
      if g.conditions.filter Condition.isComplete = [] then normalize groups
      else ⟨g.conditions.filter Condition.isComplete⟩ :: normalize groups := by
  rw [normalize, List.map_cons, List.filter_cons]
  by_cases empty : g.conditions.filter Condition.isComplete = []
  · simp only [empty, ne_eq, not_true_eq_false, decide_false, Bool.false_eq_true, if_false, if_true]
    rfl
  · simp only [empty, ne_eq, not_false_eq_true, decide_true, if_true, if_false]
    rfl

theorem serialized_eq (groups : List ConditionGroup) :
    ((groups.map fun g => serializeConditions g.conditions).filter fun s => s ≠ []) =
      (normalize groups).map groupText := by
  induction groups with
  | nil => rfl
  | cons g groups ih =>
      rw [List.map_cons, List.filter_cons, ih, normalize_cons, serializeConditions]
      by_cases empty : g.conditions.filter Condition.isComplete = []
      · simp only [empty, if_true, ne_eq, not_true_eq_false, decide_false, Bool.false_eq_true, if_false]
      · have text : groupText ⟨g.conditions.filter Condition.isComplete⟩ ≠ [] := groupText_ne_nil empty
        rw [if_neg empty, if_neg empty, List.map_cons]
        exact if_pos (decide_eq_true text)

/-- Only what is complete is written. -/
theorem serializeConditionGroups_eq (groups : List ConditionGroup) :
    serializeConditionGroups groups = written (normalize groups) := by
  rw [serializeConditionGroups, serialized_eq]
  cases normalize groups with
  | nil => rfl
  | cons g rest =>
      cases rest with
      | nil => rfl
      | cons next others => exact intercalate_wrapped (List.cons_ne_nil _ _)

/-! ### The round trip -/

theorem groupBreak_occurs {groups : List ConditionGroup} (two : 2 ≤ groups.length) :
    groupBreak <:+: groupBreak.intercalate (groups.map groupText) := by
  match groups, two with
  | g :: next :: others, _ =>
      rw [List.map_cons, List.map_cons, List.intercalate_cons_cons]
      exact List.infix_append _ _ _

theorem several_read_back {groups : List ConditionGroup} (two : 2 ≤ groups.length)
    (normal : ∀ g ∈ groups, g.Normal) :
    deserializeConditionGroups ('(' :: groupBreak.intercalate (groups.map groupText) ++ [')']) = groups ↔
      (∀ g ∈ groups, g.Legible) ∧ Separated groupBreak (groups.map groupText) := by
  have occurs := groupBreak_occurs two
  have some_ : groups ≠ [] := List.ne_nil_of_length_pos (by omega)
  have bare : Bare ('(' :: groupBreak.intercalate (groups.map groupText) ++ [')']) := by
    constructor
    · intro character member
      rw [← Option.some.inj member]
      decide
    · intro character member
      rw [List.getLast?_concat] at member
      rw [← Option.some.inj member]
      decide
  have present : '(' :: groupBreak.intercalate (groups.map groupText) ++ [')'] ≠ [] := List.cons_ne_nil _ _
  have inside : groupBreak <:+: '(' :: groupBreak.intercalate (groups.map groupText) ++ [')'] :=
    (occurs.trans (List.suffix_cons _ _).isInfix).trans (List.prefix_append _ _).isInfix
  have reads := @read_written_iff _ _ _ heavy groupText readGroup costly_group ')' " or (".toList (by decide) groups some_
  rw [← groupBreak_eq] at reads
  rw [deserializeConditionGroups_eq, trim_eq_self.mpr bare, if_neg present, unwrapped, if_pos inside,
    stripEnds_splitAll (two_le_length_splitAll occurs), reads, and_comm]
  refine and_congr_left fun _ => forall₂_congr fun g member => ?_
  exact group_reads_back (normal g member)

/-- A single group has no parentheses of its own, so its text must not look as if it had. -/
theorem one_reads_back {g : ConditionGroup} (normal : g.Normal) :
    deserializeConditionGroups (groupText g) = [g] ↔
      g.Legible ∧ ¬ groupBreak <:+: groupText g ∧ (groupText g).head? ≠ some '(' ∧
        (groupText g).getLast? ≠ some ')' := by
  rw [deserializeConditionGroups_eq]
  constructor
  · intro result
    have trimmed := weight_trim_le (groupText g)
    split at result
    case isTrue => cases result
    case isFalse =>
      rw [unwrapped] at result
      split at result
      case isTrue occurs =>
        -- a second part would weigh at least its separator
        have two := two_le_length_splitAll occurs
        have stripped := rowWeight_stripEnds_le groupBreak (splitAll groupBreak (trim (groupText g)))
        rw [← countP_intercalate groupBreak (splitAll_ne_nil groupBreak_ne_nil _),
          intercalate_splitAll groupBreak_ne_nil] at stripped
        have parts := all_read costly_group (show 0 < groupBreak.countP heavy by decide) (by
          rw [result, List.map_singleton, rowWeight_cons]
          exact (stripped.trans (Nat.add_le_add_right trimmed _)).trans (Nat.le_add_right _ _))
        have length := parts.length_eq
        rw [result, length_stripEnds, List.length_singleton] at length
        omega
      case isFalse free =>
        have read : readGroup (dropClosing (dropOpening (trim (groupText g)))) = some g := by
          cases one : readGroup (dropClosing (dropOpening (trim (groupText g)))) with
          | none =>
              rw [List.filterMap_cons_none one] at result
              cases result
          | some other =>
              rw [List.filterMap_cons_some one] at result
              exact congrArg some (List.cons.inj result).1
        obtain ⟨whole, head, last⟩ := ends_of_weight (costly_group _ _ read)
        rw [whole, dropOpening, if_neg head, dropClosing, if_neg last] at read
        rw [whole] at free
        exact ⟨(group_reads_back normal).mp read, free, head, last⟩
  · rintro ⟨legible, free, head, last⟩
    rw [trim_eq_self.mpr (legible.bare normal), if_neg (groupText_ne_nil normal.nonempty), unwrapped, if_neg free,
      dropOpening, if_neg head, dropClosing, if_neg last,
      List.filterMap_cons_some ((group_reads_back normal).mpr legible)]
    rfl

theorem written_reads_back {groups : List ConditionGroup} (normal : ∀ g ∈ groups, g.Normal) :
    deserializeConditionGroups (written groups) = groups ↔ Faithful groups := by
  match groups with
  | [] => exact ⟨fun _ => trivial, fun _ => rfl⟩
  | [g] => exact one_reads_back (normal g List.mem_cons_self)
  | g :: next :: others => exact several_read_back (Nat.le_add_left 2 _) normal

theorem normal_of_normalize {groups : List ConditionGroup} : ∀ g ∈ normalize groups, g.Normal := by
  intro g member
  obtain ⟨listed, nonempty⟩ := List.mem_filter.mp member
  obtain ⟨source, _, rfl⟩ := List.mem_map.mp listed
  exact ⟨of_decide_eq_true nonempty, fun c inside => (List.mem_filter.mp inside).2⟩

theorem normalize_of_normal {groups : List ConditionGroup} (normal : ∀ g ∈ groups, g.Normal) :
    normalize groups = groups := by
  induction groups with
  | nil => rfl
  | cons g groups ih =>
      have here := normal g List.mem_cons_self
      rw [normalize_cons, List.filter_eq_self.mpr here.complete, if_neg here.nonempty,
        ih fun other member => normal other (List.mem_cons_of_mem g member)]

/-- Whatever is read has only complete conditions and no empty group. -/
theorem normal_of_read {expr : Text} : ∀ g ∈ deserializeConditionGroups expr, g.Normal := by
  intro g member
  rw [deserializeConditionGroups_eq] at member
  split at member
  case isTrue => cases member
  case isFalse =>
    obtain ⟨part, _, read⟩ := List.mem_filterMap.mp member
    obtain ⟨conditions, nonempty⟩ := readGroup_eq_some.mp read
    refine ⟨nonempty, fun c inside => ?_⟩
    rw [← conditions] at inside
    obtain ⟨token, _, found⟩ := List.mem_filterMap.mp inside
    exact complete_of_read found

/-- Groups survive being written and read exactly when they are faithful, and so do the groups
that were read from an expression. -/
theorem condition_groups_round_trip (groups : List ConditionGroup) (expr : Text) :
    (deserializeConditionGroups (serializeConditionGroups groups) = normalize groups ↔
      Faithful (normalize groups)) ∧
    (deserializeConditionGroups (serializeConditionGroups (deserializeConditionGroups expr)) =
      deserializeConditionGroups expr ↔ Faithful (deserializeConditionGroups expr)) := by
  constructor
  · rw [serializeConditionGroups_eq]
    exact written_reads_back normal_of_normalize
  · rw [serializeConditionGroups_eq, normalize_of_normal normal_of_read]
    exact written_reads_back normal_of_read

/-- A value with the word between two conditions in it comes back cut off, with the opening quote;
the quotes of an expression are not written for a type, so its blank is lost the second time. -/
theorem value_with_separator_is_cut :
    let groups := [ConditionGroup.mk [⟨"name".toList, "==".toList, "salt and pepper".toList⟩]]
    normalize groups = groups ∧
      deserializeConditionGroups (serializeConditionGroups groups) =
        [⟨[⟨"name".toList, "==".toList, "\"salt".toList⟩]⟩] ∧
      deserializeConditionGroups "type == \" file\"".toList =
        [⟨[⟨"type".toList, "==".toList, " file".toList⟩]⟩] ∧
      deserializeConditionGroups (serializeConditionGroups
        (deserializeConditionGroups "type == \" file\"".toList)) =
        [⟨[⟨"type".toList, "==".toList, "file".toList⟩]⟩] := by
  decide +kernel

end Terrasync.Web.ConditionBuilder
