import CodeIndex.Text.Emoji
import CodeIndex.Text.Ligatures
/-!
# Terminal columns

How many columns a line of text takes on a terminal. Most characters count by themselves; an emoji
of several parts and a ligature count as one picture or letter. A line is read from its end, so
that each character finds what it may join with already read; what a join saves is taken off
again. No bound on the length of a joined sequence is assumed.
-/
namespace CodeIndex.Text

/-- How the selector right behind a character asks for it to be drawn. -/
inductive Selector where
  | unasked | sign | picture | full
  deriving DecidableEq

/-- Letters of ligatures, as they stand at the end of one. -/
inductive LastLetter where
  | lamed | ya | vowelAndYa | tifinagh | joinedTifinagh | lisuTone | orkhonI | khmer
  deriving DecidableEq

/-- What the text behind a character begins with, as far as the character can join it. -/
inductive Onset where
  | plain
  | lineFeed
  /-- A picture, of one part or of several. -/
  | picture
  | tone
  | flagLetter
  | flagLetters
  /-- A joiner, with a picture behind it. -/
  | joiner
  /-- A keycap, with a joiner and a picture behind it. -/
  | keycap
  /-- Flag letters before a joiner and a picture: one, an even number, or a higher odd number. -/
  | oneFlagLetter
  | evenFlagLetters
  | oddFlagLetters
  /-- Letters of the tag of a flag, with the end of the tag, a joiner and a picture behind them. -/
  | tagLetters (count : Nat)
  /-- Digits of such a tag. -/
  | tagDigits (count : Nat)
  | vowelE
  | vowelAi
  | alef
  /-- The last letter of a ligature, and whether a joiner stands before it. -/
  | letter (last : LastLetter) (joined : Bool)
  deriving DecidableEq

/-- The state of the reading: the selector read last, and what stands behind it. -/
structure Ahead where
  selector : Selector := .unasked
  onset : Onset := .plain
  deriving DecidableEq

/-- U+200D, which joins what stands on either side. -/
def joiner : Char := '\u200D'

/-- The onset of a character that joins nothing behind it. -/
def onsetOf (c : Char) : Onset :=
  if c = '\n' then .lineFeed
  else if c.toNat ≤ 0xA0 then .plain
  else if isAlef c then .alef
  else if c = '\u05DC' then .letter .lamed false
  else if c = '\u1A10' then .letter .ya false
  else if isTifinagh c then .letter .tifinagh false
  else if isLisuToneEnd c then .letter .lisuTone true
  else if c.toNat = 0x10C03 then .letter .orkhonI false
  else if isSubscribable c then .letter .khmer true
  else if c.toNat = 0x16D67 then .vowelE
  else if c.toNat = 0x16D68 then .vowelAi
  else if isFlagLetter c then .flagLetter
  else if isTone c then .tone
  else if isPicture c then .picture
  else .plain

/-- A letter in front of the last letter of a ligature: the columns it adds and the new onset. -/
def joinLetter (c : Char) (joined : Bool) : LastLetter → Option (Int × Onset)
  | .lamed => if joined && c = '\u05D0' then some (0, .plain) else none
  | .ya => if joined && c = '\u1A17' then some (0, .letter .vowelAndYa true) else none
  | .vowelAndYa => if c = '\u1A15' then some (0, .plain) else none
  | .tifinagh =>
    if c = tifinaghJoiner then some (1, .letter .joinedTifinagh true)
    else if joined && isTifinagh c then some (0, .plain)
    else none
  | .joinedTifinagh => if isTifinagh c then some (-1, .plain) else none
  | .lisuTone => if isLisuToneStart c then some (0, .plain) else none
  | .orkhonI => if joined && c.toNat = 0x10C32 then some (0, .plain) else none
  | .khmer => if c = '\u17D2' then some (-1, .plain) else none

/-- A character in front of a joiner and a picture. -/
def joinPicture (c : Char) : Option (Int × Onset) :=
  if c = '\u20E3' then some (0, .keycap)
  else if isFlagLetter c then some (1, .oneFlagLetter)
  else if isTone c then some (0, .tone)
  else if c.toNat = 0xE007F then some (0, .tagLetters 0)
  else if isPicture c then some (0, .picture)
  else none

/-- A character in front of the tag of a flag. The tag is a country of two letters with one to four
letters behind it, or a country of three digits with at most four. -/
def joinTag (c : Char) : Onset → Option (Int × Onset)
  | .tagLetters n =>
    if isTagLetter c && n < 6 then some (0, .tagLetters (n + 1))
    else if isTagDigit c && n ≤ 4 then some (0, .tagDigits 1)
    else if c.toNat = 0x1F3F4 && 3 ≤ n then some (0, .picture)
    else none
  | .tagDigits n =>
    if isTagDigit c && n < 3 then some (0, .tagDigits (n + 1))
    else if c.toNat = 0x1F3F4 && n = 3 then some (0, .picture)
    else none
  | _ => none

/-- The columns that a character adds by joining what stands behind it, and the new onset; none if
it does not join. -/
def join (c : Char) : Onset → Option (Int × Onset)
  | .lineFeed => if c = '\r' then some (0, .plain) else none
  | .picture => if c = joiner then some (0, .joiner) else none
  | .tone =>
    if c = joiner then some (0, .joiner)
    else if takesTone c then some (0, .picture)
    else none
  | .flagLetter => if isFlagLetter c then some (1, .flagLetters) else none
  | .flagLetters =>
    if isFlagLetter c then some (1, .flagLetters)
    else if c = joiner then some (0, .joiner)
    else none
  | .joiner => joinPicture c
  | .oneFlagLetter => if isFlagLetter c then some (-1, .evenFlagLetters) else none
  | .evenFlagLetters =>
    if isFlagLetter c then some (3, .oddFlagLetters)
    else if c = joiner then some (0, .joiner)
    else none
  | .oddFlagLetters =>
    if isFlagLetter c then some (-1, .evenFlagLetters)
    else if c = joiner then some (0, .joiner)
    else none
  | .tagLetters n => joinTag c (.tagLetters n)
  | .tagDigits n => joinTag c (.tagDigits n)
  | .vowelE =>
    if c.toNat = 0x16D63 || c.toNat = 0x16D69 then some (0, .plain)
    else if c.toNat = 0x16D67 then some (0, .vowelAi)
    else if c.toNat = 0x16D68 then some (1, .vowelE)
    else none
  | .vowelAi => if c.toNat = 0x16D63 then some (0, .plain) else none
  | .alef =>
    if isLam c then some (0, .plain)
    else if isArabicPassing c then some (0, .alef)
    else none
  | .letter last joined =>
    if c = joiner then some (0, .letter last true)
    else if isPassing c then some (0, .letter last joined)
    else joinLetter c joined last
  | .plain | .keycap => none

/-- What is left of an onset behind a selector: only ligatures reach over one. -/
def Onset.pastSelector : Onset → Onset
  | .alef => .alef
  | .letter last joined => .letter last joined
  | _ => .plain

/-- What is left of an onset behind the selector of pictures, which may end a part of a picture. -/
def Onset.pastPictureSelector : Onset → Onset
  | .joiner => .joiner
  | .keycap => .keycap
  | onset => onset.pastSelector

/-- Whether a picture in front is a part of the picture that begins here. -/
def Onset.isInPicture : Onset → Bool
  | .joiner | .keycap => true
  | _ => false

/-- A character drawn as the selector behind it asks; none if the selector means nothing to it. -/
def select (c : Char) (ahead : Ahead) : Option (Int × Ahead) :=
  match ahead.selector with
  | .unasked => none
  | .sign => if isNarrowable c then some (1, {}) else none
  | .picture =>
    if isSelectable c then some (if ahead.onset.isInPicture then 0 else 2, ⟨.unasked, .picture⟩)
    else none
  | .full => if isWidenable c then some (2, {}) else none

/-- What a character meets behind it once the selector there meant nothing to it. -/
def Ahead.rest (ahead : Ahead) : Onset :=
  match ahead.selector with
  | .unasked => ahead.onset
  | _ => ahead.onset.pastSelector

/-- Reads one character: the columns that it adds and the new state. -/
def step (c : Char) (ahead : Ahead) : Int × Ahead :=
  match select c ahead with
  | some drawn => drawn
  | none =>
    let onset := ahead.rest
    if c = '\uFE0F' then (0, ⟨.picture, onset.pastPictureSelector⟩)
    else if c = '\uFE0E' then (0, ⟨.sign, onset.pastSelector⟩)
    else if c = '\uFE01' then (0, ⟨.full, onset.pastSelector⟩)
    else
      match join c onset with
      | some (added, onset) => (added, ⟨.unasked, onset⟩)
      | none => (charColumns c, ⟨.unasked, onsetOf c⟩)

/-- The columns of the end of a line, and what the text in front of it can join. -/
def scan : List Char → Int × Ahead
  | [] => (0, {})
  | c :: rest =>
    let (total, ahead) := scan rest
    let (added, ahead) := step c ahead
    (total + added, ahead)

def columns (line : List Char) : Nat := (scan line).1.toNat

@[simp] theorem columns_nil : columns [] = 0 := rfl

end CodeIndex.Text
