import MazeGrader.Rules.Compile

/-! The grammar of a line with a rule. What is read of a line is told by the parts that it falls
into, and a line falls into such parts in one way only, as no part could go on into the next. -/
namespace MazeGrader

/-! ### Letters -/

theorem toNat_toLower (c : Char) :
    c.toLower.toNat = if 65 ≤ c.toNat ∧ c.toNat ≤ 90 then c.toNat + 32 else c.toNat := by
  have capital : c.val ≥ 'A'.val ∧ c.val ≤ 'Z'.val ↔ 65 ≤ c.toNat ∧ c.toNat ≤ 90 := by
    simp [UInt32.le_iff_toNat_le]
  unfold Char.toLower
  simp only [capital]
  split
  · next range =>
    have sum : (c.val + ('a'.val - 'A'.val)).toNat = c.val.toNat + 32 := by
      rw [UInt32.toNat_add, Nat.mod_eq_of_lt]
      · rfl
      · have small : c.val.toNat ≤ 90 := range.2
        exact Nat.lt_of_le_of_lt (Nat.add_le_add_right small _) (by decide)
    exact sum
  · rfl

/-- These are the two cases of one letter. -/
def Cased (small capital : Char) : Prop :=
  small.toNat = capital.toNat + 32 ∧ 65 ≤ capital.toNat ∧ capital.toNat ≤ 90

instance (small capital : Char) : Decidable (Cased small capital) :=
  inferInstanceAs (Decidable (_ ∧ _))

theorem Cased.toLower_eq_iff {small capital : Char} (cased : Cased small capital) (c : Char) :
    c.toLower = small ↔ c = small ∨ c = capital := by
  obtain ⟨apart, range⟩ := cased
  simp only [← Char.toNat_inj, toNat_toLower]
  split <;> omega

/-- How a slot is written; the letter of its side stands for a wall. -/
def Slot.letters (compass : Char) : Slot → List Char
  | any => ['*']
  | clear => ['x', 'X']
  | wall => [compass, compass.toUpper]

/-- How a direction is written; an `x` is for staying. -/
def Direction.letters : Direction → List Char
  | north => ['n', 'N']
  | east => ['e', 'E']
  | west => ['w', 'W']
  | south => ['s', 'S']
  | stay => ['x', 'X']

theorem Slot.ofLetter?_eq_some_iff {compass c : Char} {slot : Slot}
    (cased : Cased compass compass.toUpper) (other : compass ≠ '*' ∧ compass ≠ 'x') :
    Slot.ofLetter? compass c = some slot ↔ c ∈ slot.letters compass := by
  have clear : c.toLower = 'x' ↔ c = 'x' ∨ c = 'X' := Cased.toLower_eq_iff (by decide) c
  have wall : c ∈ [compass, compass.toUpper] ↔ c.toLower = compass := by
    simp [cased.toLower_eq_iff]
  unfold Slot.ofLetter?
  split
  · next star =>
    subst star
    have apart : '*' ∉ [compass, compass.toUpper] := fun member =>
      other.1 (wall.1 member).symm
    cases slot <;> simp [letters, apart]
  · next star =>
    split
    · next isClear =>
      have apart : c ∉ [compass, compass.toUpper] := by
        rw [wall, isClear]
        exact other.2.symm
      cases slot <;> simp [letters, apart, star, clear.1 isClear]
    · next notClear =>
      rw [clear] at notClear
      split
      · next isWall => cases slot <;> simp [letters, star, notClear, wall.2 isWall]
      · next notWall => cases slot <;> simp [letters, star, notClear, wall, notWall]

theorem Direction.ofLetter?_eq_some_iff {c : Char} {direction : Direction} :
    Direction.ofLetter? c = some direction ↔ c ∈ direction.letters := by
  have written : c ∈ direction.letters ↔ c.toLower = direction.letter.toLower := by
    have cased : ∀ small capital : Char, Cased small capital →
        (c ∈ [small, capital] ↔ c.toLower = small) := by
      intro small capital cased
      simp [cased.toLower_eq_iff]
    cases direction <;> exact cased _ _ (by decide)
  rw [written]
  unfold ofLetter?
  split
  case h_6 north east west south stay =>
    cases direction with
    | north => exact iff_of_false nofun north
    | east => exact iff_of_false nofun east
    | west => exact iff_of_false nofun west
    | south => exact iff_of_false nofun south
    | stay => exact iff_of_false nofun stay
  all_goals
    rename_i small
    rw [small]
    cases direction <;> decide

/-! ### What is read of a source -/

theorem Rule.readState_eq_some_iff {source rest : List Char} {state : State} :
    Rule.readState source = some (state, rest) ↔ ∃ digits,
      Text.Span Char.isDigit source digits rest ∧ digits ≠ [] ∧
        Numeral.value digits = state.toNat := by
  simp only [Rule.readState, Option.map_eq_some_iff, Prod.exists, Prod.mk.injEq,
    Numeral.readBelow_eq_some_iff]
  constructor
  · rintro ⟨n, _, ⟨digits, span, filled, rfl, inside⟩, rfl, rfl⟩
    exact ⟨digits, span, filled, (UInt32.toNat_ofNat_of_lt' inside).symm⟩
  · rintro ⟨digits, span, filled, value⟩
    exact ⟨_, _, ⟨digits, span, filled, value, state.toNat_lt⟩, UInt32.ofNat_toNat, rfl⟩

theorem Pattern.read_eq_some_iff {source rest : List Char} {pattern : Pattern} :
    Pattern.read source = some (pattern, rest) ↔
      ∃ n e w s, source = n :: e :: w :: s :: rest ∧
        n ∈ pattern.north.letters 'n' ∧ e ∈ pattern.east.letters 'e' ∧
        w ∈ pattern.west.letters 'w' ∧ s ∈ pattern.south.letters 's' := by
  unfold Pattern.read
  split
  · next n e w s others =>
    simp (disch := decide) only [Option.bind_eq_bind, Option.bind_eq_some_iff, Option.pure_def,
      Option.some.injEq, Prod.mk.injEq, Slot.ofLetter?_eq_some_iff]
    constructor
    · rintro ⟨north, hn, east, he, west, hw, south, hs, rfl, rfl⟩
      exact ⟨n, e, w, s, rfl, hn, he, hw, hs⟩
    · rintro ⟨_, _, _, _, same, hn, he, hw, hs⟩
      cases same
      exact ⟨_, hn, _, he, _, hw, _, hs, rfl, rfl⟩
  · next short =>
    constructor
    · intro read
      cases read
    · rintro ⟨n, e, w, s, rfl, -⟩
      exact absurd rfl (short n e w s rest)

theorem skipArrow_eq_some_iff {source rest : List Char} :
    skipArrow source = some rest ↔ source = '-' :: '>' :: rest := by
  unfold skipArrow
  split
  · simp [eq_comm]
  · next noArrow =>
    constructor
    · intro read
      cases read
    · exact fun arrow => absurd arrow (noArrow rest)

theorem Direction.read_eq_some_iff {source rest : List Char} {direction : Direction} :
    Direction.read source = some (direction, rest) ↔
      ∃ c, source = c :: rest ∧ c ∈ direction.letters := by
  simp only [← Direction.ofLetter?_eq_some_iff]
  unfold Direction.read
  split
  · next c others =>
    simp only [Option.map_eq_some_iff, Prod.mk.injEq, List.cons.injEq]
    constructor
    · rintro ⟨_, read, rfl, rfl⟩
      exact ⟨c, ⟨rfl, rfl⟩, read⟩
    · rintro ⟨_, ⟨rfl, rfl⟩, read⟩
      exact ⟨_, read, rfl, rfl⟩
  · simp

/-! ### The parts of a line -/

/-- The parts of a line with a rule in the order in which they stand there. -/
structure RuleParts where
  before : List Char
  state : List Char
  afterState : List Char
  north : Char
  east : Char
  west : Char
  south : Char
  afterSlots : List Char
  afterArrow : List Char
  direction : Char
  afterDirection : List Char
  next : List Char
  remark : List Char

/-- Nothing but spaces and tabs. -/
def IsGap (part : List Char) : Prop := ∀ c ∈ part, c = ' ' ∨ c = '\t'

/-- Digits whose value has 32 bits. -/
def IsStateNumeral (part : List Char) : Prop :=
  part ≠ [] ∧ (∀ c ∈ part, c.isDigit = true) ∧ Numeral.value part < Numeral.bound32

namespace RuleParts

def text (parts : RuleParts) : List Char :=
  parts.before ++ parts.state ++ parts.afterState ++
    [parts.north, parts.east, parts.west, parts.south] ++ parts.afterSlots ++ ['-', '>'] ++
    parts.afterArrow ++ [parts.direction] ++ parts.afterDirection ++ parts.next ++ parts.remark

/-- A line falls into these parts, and each of them is what the grammar has in its place. -/
structure Splits (parts : RuleParts) (line : List Char) : Prop where
  text : line = parts.text
  before : IsGap parts.before
  state : IsStateNumeral parts.state
  afterState : IsGap parts.afterState ∧ parts.afterState ≠ []
  north : ∃ slot : Slot, parts.north ∈ slot.letters 'n'
  east : ∃ slot : Slot, parts.east ∈ slot.letters 'e'
  west : ∃ slot : Slot, parts.west ∈ slot.letters 'w'
  south : ∃ slot : Slot, parts.south ∈ slot.letters 's'
  afterSlots : IsGap parts.afterSlots
  afterArrow : IsGap parts.afterArrow
  direction : ∃ direction : Direction, parts.direction ∈ direction.letters
  afterDirection : IsGap parts.afterDirection ∧ parts.afterDirection ≠ []
  next : IsStateNumeral parts.next
  remark : ∀ c ∈ parts.remark.head?, c.isDigit = false

/-- The rule is the one that these parts are written for. -/
structure Spells (parts : RuleParts) (rule : Rule) : Prop where
  state : Numeral.value parts.state = rule.state.toNat
  north : parts.north ∈ rule.pattern.north.letters 'n'
  east : parts.east ∈ rule.pattern.east.letters 'e'
  west : parts.west ∈ rule.pattern.west.letters 'w'
  south : parts.south ∈ rule.pattern.south.letters 's'
  direction : parts.direction ∈ rule.transition.direction.letters
  next : Numeral.value parts.next = rule.transition.next.toNat

/-! What is left of the line where a part begins. -/

def fromNext (parts : RuleParts) : List Char := parts.next ++ parts.remark

def fromDirection (parts : RuleParts) : List Char :=
  parts.direction :: (parts.afterDirection ++ parts.fromNext)

def fromArrow (parts : RuleParts) : List Char :=
  '-' :: '>' :: (parts.afterArrow ++ parts.fromDirection)

def fromSlots (parts : RuleParts) : List Char :=
  parts.north :: parts.east :: parts.west :: parts.south :: (parts.afterSlots ++ parts.fromArrow)

def fromState (parts : RuleParts) : List Char :=
  parts.state ++ (parts.afterState ++ parts.fromSlots)

theorem text_eq (parts : RuleParts) : parts.text = parts.before ++ parts.fromState := by
  simp [text, fromState, fromSlots, fromArrow, fromDirection, fromNext]

/-- Each gap and each numeral goes as far as it can. -/
structure Spans (parts : RuleParts) (line : List Char) : Prop where
  before : Text.Span isGap line parts.before parts.fromState
  state : Text.Span Char.isDigit parts.fromState parts.state (parts.afterState ++ parts.fromSlots)
  afterState : Text.Span isGap (parts.afterState ++ parts.fromSlots) parts.afterState
    parts.fromSlots
  afterSlots : Text.Span isGap (parts.afterSlots ++ parts.fromArrow) parts.afterSlots
    parts.fromArrow
  afterArrow : Text.Span isGap (parts.afterArrow ++ parts.fromDirection) parts.afterArrow
    parts.fromDirection
  afterDirection : Text.Span isGap (parts.afterDirection ++ parts.fromNext) parts.afterDirection
    parts.fromNext
  next : Text.Span Char.isDigit parts.fromNext parts.next parts.remark

theorem span_gap {gap rest : List Char} (blank : IsGap gap)
    (stops : ∀ c ∈ rest.head?, isGap c = false) : Text.Span isGap (gap ++ rest) gap rest :=
  ⟨rfl, fun c member => isGap_iff.2 (blank c member), stops⟩

theorem isGap_of_span {source gap rest : List Char} (span : Text.Span isGap source gap rest) :
    IsGap gap := fun c member => isGap_iff.1 (span.all c member)

theorem forall_head?_append {kind : Char → Prop} {part rest : List Char} (filled : part ≠ [])
    (all : ∀ c ∈ part, kind c) : ∀ c ∈ (part ++ rest).head?, kind c := by
  obtain ⟨first, others, rfl⟩ := List.exists_cons_of_ne_nil filled
  intro c member
  cases member
  exact all _ List.mem_cons_self

theorem isGap_eq_false_of_mem_letters {compass c : Char} {slot : Slot}
    (letter : isGap compass = false ∧ isGap compass.toUpper = false)
    (member : c ∈ slot.letters compass) : isGap c = false := by
  cases slot <;> simp only [Slot.letters, List.mem_cons, List.not_mem_nil, or_false] at member
  · exact member ▸ rfl
  · rcases member with rfl | rfl <;> rfl
  · rcases member with rfl | rfl
    · exact letter.1
    · exact letter.2

theorem isGap_eq_false_of_mem_directionLetters {c : Char} {direction : Direction}
    (member : c ∈ direction.letters) : isGap c = false := by
  cases direction <;>
    simp only [Direction.letters, List.mem_cons, List.not_mem_nil, or_false] at member <;>
    rcases member with rfl | rfl <;> rfl

variable {parts others : RuleParts} {line : List Char} {rule : Rule}

theorem Splits.spans (splits : parts.Splits line) : parts.Spans line := by
  have numeral : ∀ part rest : List Char, IsStateNumeral part →
      ∀ c ∈ (part ++ rest).head?, isGap c = false := fun part rest digits =>
    forall_head?_append digits.1 fun c member => isGap_eq_false_of_isDigit (digits.2.1 c member)
  have gap : ∀ part rest : List Char, IsGap part ∧ part ≠ [] →
      ∀ c ∈ (part ++ rest).head?, c.isDigit = false := by
    rintro part rest ⟨blank, filled⟩
    refine forall_head?_append filled fun c member => ?_
    rcases blank c member with rfl | rfl <;> rfl
  obtain ⟨_, north⟩ := splits.north
  obtain ⟨_, direction⟩ := splits.direction
  refine ⟨?_, ⟨rfl, splits.state.2.1, gap _ _ splits.afterState⟩, ?_, ?_, ?_, ?_,
    ⟨rfl, splits.next.2.1, splits.remark⟩⟩
  · rw [splits.text, text_eq]
    exact span_gap splits.before (numeral _ _ splits.state)
  · refine span_gap splits.afterState.1 fun c first => ?_
    cases first
    exact isGap_eq_false_of_mem_letters (by decide) north
  · refine span_gap splits.afterSlots fun c first => ?_
    cases first
    rfl
  · refine span_gap splits.afterArrow fun c first => ?_
    cases first
    exact isGap_eq_false_of_mem_directionLetters direction
  · exact span_gap splits.afterDirection.1 (numeral _ _ splits.next)

/-- A line falls into parts in one way. -/
theorem Spans.unique (spans : parts.Spans line) (again : others.Spans line) : others = parts := by
  -- From left to right, each part is found where the one before it ends.
  obtain ⟨before, fromState⟩ := spans.before.unique again.before
  have state := again.state
  rw [← fromState] at state
  obtain ⟨state, gap⟩ := spans.state.unique state
  have afterState := again.afterState
  rw [← gap] at afterState
  obtain ⟨afterState, fromSlots⟩ := spans.afterState.unique afterState
  simp only [RuleParts.fromSlots, List.cons.injEq] at fromSlots
  obtain ⟨north, east, west, south, gap⟩ := fromSlots
  have afterSlots := again.afterSlots
  rw [← gap] at afterSlots
  obtain ⟨afterSlots, fromArrow⟩ := spans.afterSlots.unique afterSlots
  simp only [RuleParts.fromArrow, List.cons.injEq, true_and] at fromArrow
  have afterArrow := again.afterArrow
  rw [← fromArrow] at afterArrow
  obtain ⟨afterArrow, fromDirection⟩ := spans.afterArrow.unique afterArrow
  simp only [RuleParts.fromDirection, List.cons.injEq] at fromDirection
  obtain ⟨direction, gap⟩ := fromDirection
  have afterDirection := again.afterDirection
  rw [← gap] at afterDirection
  obtain ⟨afterDirection, fromNext⟩ := spans.afterDirection.unique afterDirection
  have next := again.next
  rw [← fromNext] at next
  obtain ⟨next, remark⟩ := spans.next.unique next
  cases parts
  cases others
  simp_all

/-- What the parts of a line spell is read of the line. -/
theorem Splits.read?_eq (splits : parts.Splits line) (spells : parts.Spells rule) :
    Rule.read? line = some rule := by
  have spans := splits.spans
  have before := skipGap_eq_iff.2 ⟨_, spans.before⟩
  have state := Rule.readState_eq_some_iff.2 ⟨_, spans.state, splits.state.1, spells.state⟩
  have afterState := skipSomeGap_eq_some_iff.2 ⟨_, spans.afterState, splits.afterState.2⟩
  have pattern : Pattern.read parts.fromSlots =
      some (rule.pattern, parts.afterSlots ++ parts.fromArrow) :=
    Pattern.read_eq_some_iff.2
      ⟨_, _, _, _, rfl, spells.north, spells.east, spells.west, spells.south⟩
  have afterSlots := skipGap_eq_iff.2 ⟨_, spans.afterSlots⟩
  have arrow : skipArrow parts.fromArrow = some (parts.afterArrow ++ parts.fromDirection) :=
    skipArrow_eq_some_iff.2 rfl
  have afterArrow := skipGap_eq_iff.2 ⟨_, spans.afterArrow⟩
  have direction : Direction.read parts.fromDirection =
      some (rule.transition.direction, parts.afterDirection ++ parts.fromNext) :=
    Direction.read_eq_some_iff.2 ⟨_, rfl, spells.direction⟩
  have afterDirection :=
    skipSomeGap_eq_some_iff.2 ⟨_, spans.afterDirection, splits.afterDirection.2⟩
  have next := Rule.readState_eq_some_iff.2 ⟨_, spans.next, splits.next.1, spells.next⟩
  simp [Rule.read?, before, state, afterState, pattern, afterSlots, arrow, afterArrow, direction,
    afterDirection, next]

/-- A line of which a rule is read falls into parts that spell the rule. -/
theorem exists_of_read? (read : Rule.read? line = some rule) :
    ∃ parts : RuleParts, parts.Splits line ∧ parts.Spells rule := by
  simp only [Rule.read?, Option.bind_eq_bind, Option.bind_eq_some_iff, Prod.exists, Option.pure_def,
    Option.some.injEq, Rule.readState_eq_some_iff, skipSomeGap_eq_some_iff,
    Pattern.read_eq_some_iff, skipArrow_eq_some_iff, Direction.read_eq_some_iff] at read
  obtain ⟨state, source₁, ⟨stateText, stateSpan, stateSome, stateValue⟩,
    source₂, ⟨afterState, afterStateSpan, afterStateSome⟩,
    pattern, source₃, ⟨n, e, w, s, rfl, north, east, west, south⟩,
    source₄, arrow, direction, source₅, ⟨d, directionText, directionLetter⟩,
    source₆, ⟨afterDirection, afterDirectionSpan, afterDirectionSome⟩,
    next, remark, ⟨nextText, nextSpan, nextSome, nextValue⟩, rfl⟩ := read
  obtain ⟨before, beforeSpan⟩ := skipGap_eq_iff.1 (rfl : skipGap line = _)
  obtain ⟨afterSlots, afterSlotsSpan⟩ := skipGap_eq_iff.1 arrow
  obtain ⟨afterArrow, afterArrowSpan⟩ := skipGap_eq_iff.1 directionText
  refine ⟨⟨before, stateText, afterState, n, e, w, s, afterSlots, afterArrow, d, afterDirection,
    nextText, remark⟩, ⟨?_, isGap_of_span beforeSpan, ⟨stateSome, stateSpan.all, ?_⟩,
    ⟨isGap_of_span afterStateSpan, afterStateSome⟩, ⟨_, north⟩, ⟨_, east⟩, ⟨_, west⟩, ⟨_, south⟩,
    isGap_of_span afterSlotsSpan, isGap_of_span afterArrowSpan, ⟨_, directionLetter⟩,
    ⟨isGap_of_span afterDirectionSpan, afterDirectionSome⟩, ⟨nextSome, nextSpan.all, ?_⟩,
    nextSpan.stops⟩, ⟨stateValue, north, east, west, south, directionLetter, nextValue⟩⟩
  · rw [beforeSpan.split, stateSpan.split, afterStateSpan.split, afterSlotsSpan.split,
      afterArrowSpan.split, afterDirectionSpan.split, nextSpan.split]
    simp [text]
  · rw [stateValue]
    exact state.toNat_lt
  · rw [nextValue]
    exact next.toNat_lt

theorem Splits.exists_spells (splits : parts.Splits line) : ∃ rule, parts.Spells rule := by
  obtain ⟨north, isNorth⟩ := splits.north
  obtain ⟨east, isEast⟩ := splits.east
  obtain ⟨west, isWest⟩ := splits.west
  obtain ⟨south, isSouth⟩ := splits.south
  obtain ⟨direction, isDirection⟩ := splits.direction
  refine ⟨⟨.ofNat (Numeral.value parts.state), ⟨north, east, west, south⟩,
    ⟨direction, .ofNat (Numeral.value parts.next)⟩⟩, ?_, isNorth, isEast, isWest, isSouth,
    isDirection, ?_⟩
  · exact (UInt32.toNat_ofNat_of_lt' splits.state.2.2).symm
  · exact (UInt32.toNat_ofNat_of_lt' splits.next.2.2).symm

theorem read?_eq_some_iff : Rule.read? line = some rule ↔
    ∃ parts : RuleParts, parts.Splits line ∧ parts.Spells rule :=
  ⟨exists_of_read?, fun ⟨_, splits, spells⟩ => splits.read?_eq spells⟩

end RuleParts

theorem Rule.parse_eq_ok_iff {line : String} {index : Nat} {rule : Rule} :
    Rule.parse line index = .ok rule ↔ Rule.read? line.toList = some rule := by
  unfold Rule.parse
  cases Rule.read? line.toList <;> simp

theorem Rule.parse_of_read?_eq_none {line : String} (unreadable : Rule.read? line.toList = none)
    (index : Nat) : Rule.parse line index = .error (.unreadableLine index) := by
  rw [Rule.parse, unreadable]

/-- A rule is read of just the lines that fall into the parts of the grammar. They do so in one
way, and the rule is what the parts spell; any other line is said to be unreadable. -/
theorem Rule.parse_grammar (line : String) (index : Nat) :
    ((∃ rule, Rule.parse line index = .ok rule) ↔
      ∃ parts : RuleParts, parts.Splits line.toList) ∧
    (∀ parts : RuleParts, parts.Splits line.toList →
      (∀ other : RuleParts, other.Splits line.toList → other = parts) ∧
      ∀ rule, Rule.parse line index = .ok rule ↔ parts.Spells rule) ∧
    ((¬∃ parts : RuleParts, parts.Splits line.toList) →
      Rule.parse line index = .error (.unreadableLine index)) := by
  simp only [Rule.parse_eq_ok_iff, RuleParts.read?_eq_some_iff]
  refine ⟨⟨?_, ?_⟩, fun parts splits => ⟨fun other again => ?_, fun rule => ⟨?_, ?_⟩⟩,
    fun apart => ?_⟩
  · rintro ⟨rule, parts, splits, -⟩
    exact ⟨parts, splits⟩
  · rintro ⟨parts, splits⟩
    obtain ⟨rule, spells⟩ := splits.exists_spells
    exact ⟨rule, parts, splits, spells⟩
  · exact splits.spans.unique again.spans
  · rintro ⟨other, again, spells⟩
    rwa [splits.spans.unique again.spans] at spells
  · exact fun spells => ⟨parts, splits, spells⟩
  · refine Rule.parse_of_read?_eq_none
      (Option.eq_none_iff_forall_ne_some.2 fun rule read => ?_) index
    obtain ⟨parts, splits, -⟩ := RuleParts.exists_of_read? read
    exact apart ⟨parts, splits⟩

/-- The remark goes on over the end of the line. A state of 33 bits does not fit, and neither do
its first digits. -/
theorem Rule.parse_grammar_remark :
    let line := "\t00 nX*s->E \t12, east\n3"
    let parts : RuleParts := ⟨['\t'], ['0', '0'], [' '], 'n', 'X', '*', 's', [], [], 'E',
      [' ', '\t'], ['1', '2'], ", east\n3".toList⟩
    parts.Splits line.toList ∧
      (∀ other : RuleParts, other.Splits line.toList → other = parts) ∧
      Rule.parse line 5 = .ok ⟨0, ⟨.wall, .clear, .any, .wall⟩, ⟨.east, 12⟩⟩ ∧
      (¬∃ parts : RuleParts, parts.Splits "0 **** -> x 4294967296".toList) ∧
      Rule.parse "0 **** -> x 4294967296" 5 = .error (.unreadableLine 5) := by
  intro line parts
  have splits : parts.Splits line.toList :=
    { text := by decide
      before := by simp [parts, IsGap]
      state := ⟨by decide, by simp [parts], by decide⟩
      afterState := by simp [parts, IsGap]
      north := ⟨.wall, by decide⟩
      east := ⟨.clear, by decide⟩
      west := ⟨.any, by decide⟩
      south := ⟨.wall, by decide⟩
      afterSlots := by simp [parts, IsGap]
      afterArrow := by simp [parts, IsGap]
      direction := ⟨.east, by decide⟩
      afterDirection := by simp [parts, IsGap]
      next := ⟨by decide, by simp [parts], by decide⟩
      remark := by simp [parts] }
  have grammar := Rule.parse_grammar line 5
  have tooLarge := Rule.parse_grammar "0 **** -> x 4294967296" 5
  have apart : ¬∃ parts : RuleParts, parts.Splits "0 **** -> x 4294967296".toList := by
    have unread : Rule.read? "0 **** -> x 4294967296".toList = none := by decide
    rw [← tooLarge.1]
    rintro ⟨rule, read⟩
    rw [Rule.parse_eq_ok_iff, unread] at read
    cases read
  refine ⟨splits, (grammar.2.1 parts splits).1, ?_, apart, tooLarge.2.2 apart⟩
  rw [(grammar.2.1 parts splits).2]
  exact ⟨by decide, by decide, by decide, by decide, by decide, by decide, by decide⟩

end MazeGrader
