import MazeGrader.Text.Columns
import MazeGrader.Text.Emoji

/-! Columns of a terminal that a text on one line takes. They are those of its characters, but
for ligatures and for sequences that are drawn as one picture. A text is read from its end, so
that what a character is drawn with is known when it is met. -/
namespace MazeGrader.Text

/-- The end of a ligature. The joined ones have a joiner in front. -/
inductive Ligature where
  | alef
  | lamed
  | joinedLamed
  | khmer
  | ya
  | joinedYa
  | joinedYaWithVowel
  | tifinagh
  | joinedTifinagh
  | boundTifinagh
  | lastTone
  | orkhonI
  | joinedOrkhonI
  | vowel
  | twoVowels
  deriving DecidableEq, Repr

/-- The end of a sequence of emoji. The joined ones are those with a joiner, and then a keycap
or flag letters, in front. -/
inductive Pictogram where
  | picture
  | skinTone
  | flagLetter
  | flagLetters
  | joined
  | joinedKeycap
  | joinedFlagLetter
  | joinedFlag
  | joinedFlagAndLetter
  deriving DecidableEq, Repr

/-- What a text begins with, as far as a character before it can be drawn as one with it. -/
inductive Opening where
  | other
  | lineFeed
  | ligature (ending : Ligature)
  | pictogram (ending : Pictogram)
  deriving DecidableEq, Repr

/-- Asks for a style of the character in front. -/
inductive Selector where
  | picture
  | text
  | full
  deriving DecidableEq, Repr

def Selector.ofChar? (c : Char) : Option Selector :=
  if c = '\ufe0f' then some .picture
  else if c = '\ufe0e' then some .text
  else if c = '\ufe01' then some .full
  else none

/-- The columns of a text on one line, with what it begins with. A selector stands in front of
the opening. -/
structure Measure where
  width : Nat
  opening : Opening
  selector : Option Selector
  deriving DecidableEq, Repr

def joiner : Char := '\u200d'

/-- Letters of the joining group of Lam. -/
def isLam (c : Char) : Bool :=
  inRanges [(0x644, 0x644), (0x6B5, 0x6B8), (0x76A, 0x76A), (0x8A6, 0x8A6), (0x8C7, 0x8C7)] c.toNat

/-- Letters of the joining group of Alef. -/
def isAlef (c : Char) : Bool :=
  inRanges [(0x622, 0x623), (0x625, 0x625), (0x627, 0x627), (0x671, 0x673), (0x675, 0x675),
    (0x773, 0x774), (0x870, 0x882)] c.toNat

/-- Khmer letters that can be drawn below another. -/
def isKhmer (c : Char) : Bool :=
  inRanges [(0x1780, 0x1782), (0x1784, 0x1787), (0x1789, 0x178C), (0x178E, 0x1793),
    (0x1795, 0x1798), (0x179B, 0x179D), (0x17A0, 0x17A0), (0x17A2, 0x17A2), (0x17A7, 0x17A7),
    (0x17AB, 0x17AC), (0x17AF, 0x17AF)] c.toNat

def isTifinagh (c : Char) : Bool := inRanges [(0x2D31, 0x2D65), (0x2D6F, 0x2D6F)] c.toNat

/-- Lisu tone letters that form one with a letter of the next kind. -/
def isTone (c : Char) : Bool := inRanges [(0xA4F8, 0xA4FB)] c.toNat

def isLastTone (c : Char) : Bool := inRanges [(0xA4FC, 0xA4FD)] c.toNat

/-- Format characters across which Arabic letters join. -/
def isTransparentFormat (c : Char) : Bool :=
  inRanges [(0xAD, 0xAD), (0x61C, 0x61C), (0x70F, 0x70F), (0x200B, 0x200B), (0x200E, 0x200F),
    (0x202A, 0x202E), (0x2060, 0x2064), (0x206A, 0x206F), (0xFEFF, 0xFEFF), (0x1BCA0, 0x1BCA3),
    (0x1D173, 0x1D17A), (0xE0001, 0xE0001), (0xE0020, 0xE007F)] c.toNat

/-- Marks that can be left out of sight, which part no ligature. -/
def isIgnorableMark (c : Char) : Bool :=
  inRanges [(0x34F, 0x34F), (0x17B4, 0x17B5), (0x180B, 0x180D), (0x180F, 0x180F),
    (0xFE00, 0xFE0F), (0xE0100, 0xE01EF)] c.toNat

def isQuotationMark (c : Char) : Bool := inRanges [(0x2018, 0x2019), (0x201C, 0x201D)] c.toNat

/-- The ligature that a character can end. -/
def Ligature.ofChar? (c : Char) : Option Ligature :=
  if c = '\u05dc' then some .lamed
  else if isAlef c then some .alef
  else if isKhmer c then some .khmer
  else if c = '\u1a10' then some .ya
  else if isTifinagh c then some .tifinagh
  else if isLastTone c then some .lastTone
  else if c.toNat = 0x10C03 then some .orkhonI
  else if c.toNat = 0x16D67 then some .vowel
  else if c.toNat = 0x16D68 then some .twoVowels
  else none

def Pictogram.ofChar? (c : Char) : Option Pictogram :=
  if isPicture c then some .picture
  else if isSkinTone c then some .skinTone
  else if isFlagLetter c then some .flagLetter
  else none

def Opening.ofChar (c : Char) : Opening :=
  if c = '\n' then .lineFeed
  else if c.toNat < 0x5DC then .other
  else match Ligature.ofChar? c with
    | some ending => .ligature ending
    | none => ((Pictogram.ofChar? c).map .pictogram).getD .other

/-- The end of a ligature with a joiner in front. -/
def Ligature.join : Ligature → Ligature
  | .lamed => .joinedLamed
  | .ya => .joinedYa
  | .tifinagh => .joinedTifinagh
  | .orkhonI => .joinedOrkhonI
  | ending => ending

namespace Measure

/-- The measure with a selector in front. Ligatures and joined pictures outlast one. -/
def select (text : Measure) (selector : Selector) : Measure :=
  match text.opening, selector with
  | .ligature _, _ | .pictogram .joined, .picture | .pictogram .joinedKeycap, .picture =>
    { text with selector := some selector }
  | _, _ => ⟨text.width, .other, some selector⟩

/-- The measure for a character that has no style to select. -/
def unselected (text : Measure) : Measure :=
  match text.selector, text.opening with
  | none, _ => text
  | some _, .ligature ending => ⟨text.width, .ligature ending, none⟩
  | some _, _ => ⟨text.width, .other, none⟩

/-- The measure with a character in front whose style is selected: a picture takes two columns,
unless it is joined to another, text one, and a full quotation mark two. -/
def styled? (text : Measure) (c : Char) : Option Measure :=
  match text.selector with
  | none => none
  | some .picture =>
    if isStyled c then
      let columns := if text.opening matches .pictogram _ then 0 else 2
      some ⟨text.width + columns, .pictogram .picture, none⟩
    else none
  | some .text => if isStyledPicture c then some ⟨text.width + 1, .other, none⟩ else none
  | some .full => if isQuotationMark c then some ⟨text.width + 2, .other, none⟩ else none

/-- The measure with a vowel of Kirat Rai in front of its vowel E. The vowel signs of this script
that are written as sequences of others take one column. -/
def withVowel? (text : Measure) (c : Char) : Option Measure :=
  match c.toNat with
  | 0x16D63 | 0x16D69 => some ⟨text.width, .other, none⟩
  | 0x16D67 => some ⟨text.width, .ligature .twoVowels, none⟩
  | 0x16D68 => some ⟨text.width + 1, .ligature .vowel, none⟩
  | _ => none

/-- The measure with a character in front that completes a ligature or goes on with it. -/
def ligated? (text : Measure) (ending : Ligature) (c : Char) : Option Measure :=
  let complete (isFirst : Bool) : Option Measure :=
    if isFirst then some ⟨text.width, .other, none⟩ else none
  match ending with
  | .alef =>
    if isJoining c || isTransparentFormat c then some text else complete (isLam c)
  | ending =>
    if c = joiner then some { text with opening := .ligature ending.join }
    else if isIgnorableMark c then some text
    else match ending with
      | .joinedLamed => complete (c == '\u05d0')
      | .khmer => if c = '\u17d2' then some ⟨text.width - 1, .other, none⟩ else none
      | .joinedYa =>
        if c = '\u1a17' then some { text with opening := .ligature .joinedYaWithVowel } else none
      | .joinedYaWithVowel => complete (c == '\u1a15')
      | .tifinagh =>
        if c = '\u2d7f' then some ⟨text.width + 1, .ligature .boundTifinagh, none⟩ else none
      | .joinedTifinagh =>
        if c = '\u2d7f' then some ⟨text.width + 1, .ligature .boundTifinagh, none⟩
        else complete (isTifinagh c)
      | .boundTifinagh => if isTifinagh c then some ⟨text.width - 1, .other, none⟩ else none
      | .lastTone => complete (isTone c)
      | .joinedOrkhonI => complete (c.toNat == 0x10C32)
      | .vowel => text.withVowel? c
      | .twoVowels => complete (c.toNat == 0x16D63)
      | _ => none

/-- The measure with a character in front that is drawn as one with a picture. A flag takes the
two columns of its letters, and none if it is joined to a picture. -/
def depicted? (text : Measure) (ending : Pictogram) (c : Char) : Option Measure :=
  let into (width : Nat) (ending : Pictogram) : Option Measure :=
    some ⟨width, .pictogram ending, none⟩
  match ending with
  | .picture => if c = joiner then into text.width .joined else none
  | .skinTone =>
    if isBody c then into text.width .picture
    else if c = joiner then into text.width .joined
    else none
  | .flagLetter => if isFlagLetter c then into (text.width + 1) .flagLetters else none
  | .flagLetters =>
    if isFlagLetter c then into (text.width + 1) .flagLetters
    else if c = joiner then into text.width .joined
    else none
  | .joined =>
    if c = '\u20e3' then into text.width .joinedKeycap
    else if isFlagLetter c then into (text.width + 1) .joinedFlagLetter
    else if isSkinTone c then into text.width .skinTone
    else if isPicture c then into text.width .picture
    else none
  | .joinedKeycap => none
  | .joinedFlagLetter => if isFlagLetter c then into (text.width - 1) .joinedFlag else none
  | .joinedFlag =>
    if isFlagLetter c then into (text.width + 3) .joinedFlagAndLetter
    else if c = joiner then into text.width .joined
    else none
  | .joinedFlagAndLetter =>
    if isFlagLetter c then into (text.width - 1) .joinedFlag
    else if c = joiner then into text.width .joined
    else none

/-- The measure with a character in front that is drawn as one with what follows it. -/
def joined? (text : Measure) (c : Char) : Option Measure :=
  match text.opening with
  | .other => none
  | .lineFeed => if c = '\r' then some ⟨text.width, .other, none⟩ else none
  | .ligature ending => text.ligated? ending c
  | .pictogram ending => text.depicted? ending c

/-- The measure with a character in front. -/
def push (c : Char) (text : Measure) : Measure :=
  match text.styled? c with
  | some styled => styled
  | none =>
    let text := text.unselected
    match Selector.ofChar? c with
    | some selector => text.select selector
    | none => (text.joined? c).getD ⟨charWidth c + text.width, .ofChar c, none⟩

end Measure

/-- The columns of a text on one line. -/
def lineWidth (line : List Char) : Nat := (line.foldr Measure.push ⟨0, .other, none⟩).width

example : lineWidth "añ".toList = 2 ∧ lineWidth "日\r\n".toList = 3 := by decide +kernel

/-- A heart is text of one column, and a picture of two if a selector says so. -/
example : lineWidth ['\u2764'] = 1 ∧ lineWidth ['\u2764', '\ufe0f'] = 2 := by decide +kernel

end MazeGrader.Text
