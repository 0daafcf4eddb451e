import TabularQuery.Text.Ranges

/-! The room a line of text takes in a grid, in columns. Most characters take their own
width wherever they stand, but some join with what follows: a presentation selector
narrows or widens the emoji before it, joined emoji count once, and a few scripts write
two letters as one. A line is therefore read from its end, and what stands to the right
of a character is kept as a context. -/

namespace TabularQuery.Text

/-- The last letter of a pair that is written as one. -/
inductive Letter
  | lamed
  | ya
  | vowelYa
  | consonant
  | joinedConsonant
  | tone
  | orkhonI
  | subjoined
  deriving DecidableEq

/-- What stands to the right of a character, as far as it matters to its width. A tag
sequence is counted by its letters and digits. -/
inductive Context
  | plain
  | skinTone
  | flag
  | flags
  | emoji
  | joined
  | joinedKeycap
  | joinedFlag
  | joinedEvenFlags
  | joinedOddFlags
  | tags (letters digits : Nat)
  | alef
  | letter (last : Letter) (joiner : Bool)
  | vowelE
  | vowelAi
  deriving DecidableEq

structure Selectors where
  emoji : Bool := false
  text : Bool := false
  fullwidth : Bool := false
  deriving DecidableEq

/-- A context, and the selectors between it and the character. -/
structure Right where
  context : Context
  selectors : Selectors := {}
  deriving DecidableEq

namespace Right

def plain : Right := ⟨.plain, {}⟩

/-- Selectors do not part the letters of a pair, and several of them gather before one. -/
def keepsLetters (right : Right) : Bool :=
  match right.context with
  | .alef | .letter _ _ => true
  | _ => false

def awaitsEmoji (right : Right) : Bool :=
  match right.context with
  | .joined | .joinedKeycap => true
  | _ => false

def askEmoji (right : Right) : Right :=
  if right.keepsLetters || right.awaitsEmoji then
    ⟨right.context, { right.selectors with emoji := true }⟩
  else ⟨.plain, { emoji := true }⟩

def askText (right : Right) : Right :=
  if right.keepsLetters then ⟨right.context, { right.selectors with text := true }⟩
  else ⟨.plain, { text := true }⟩

def askFullwidth (right : Right) : Right :=
  if right.keepsLetters then ⟨right.context, { right.selectors with fullwidth := true }⟩
  else ⟨.plain, { fullwidth := true }⟩

def withoutEmoji (right : Right) : Right :=
  if !right.selectors.emoji then right
  else if right.keepsLetters then ⟨right.context, { right.selectors with emoji := false }⟩
  else .plain

def unselected (right : Right) : Context :=
  if right.keepsLetters || right.selectors = {} then right.context else .plain

end Right

def isJoiner (c : Char) : Bool := c.toNat = 0x200D

def between (first last : Nat) (c : Char) : Bool := first ≤ c.toNat && c.toNat ≤ last

def isFlagLetter (c : Char) : Bool := between 0x1F1E6 0x1F1FF c

def isSkinTone (c : Char) : Bool := between 0x1F3FB 0x1F3FF c

def isTagLetter (c : Char) : Bool := between 0xE0061 0xE007A c

def isTagDigit (c : Char) : Bool := between 0xE0030 0xE0039 c

def isIgnorableMark (c : Char) : Bool :=
  covered [(0x34F, 0x34F), (0x17B4, 0x17B5), (0x180B, 0x180D), (0x180F, 0x180F), (0xFE00, 0xFE0F),
    (0xE0100, 0xE01EF)] c

def isAlef (c : Char) : Bool :=
  covered [(0x622, 0x623), (0x625, 0x625), (0x627, 0x627), (0x671, 0x673), (0x675, 0x675),
    (0x773, 0x774), (0x870, 0x882)] c

def isLam (c : Char) : Bool :=
  covered [(0x644, 0x644), (0x6B5, 0x6B8), (0x76A, 0x76A), (0x8A6, 0x8A6), (0x8C7, 0x8C7)] c

/-- Letters that a coeng sign places below the letter before it. -/
def isSubjoined (c : Char) : Bool :=
  covered [(0x1780, 0x1782), (0x1784, 0x1787), (0x1789, 0x178C), (0x178E, 0x1793),
    (0x1795, 0x1798), (0x179B, 0x179D), (0x17A0, 0x17A0), (0x17A2, 0x17A2), (0x17A7, 0x17A7),
    (0x17AB, 0x17AC), (0x17AF, 0x17AF)] c

def isConsonant (c : Char) : Bool := covered [(0x2D31, 0x2D65), (0x2D6F, 0x2D6F)] c

def isQuotationMark (c : Char) : Bool := covered [(0x2018, 0x2019), (0x201C, 0x201D)] c

def isEmoji (c : Char) : Bool := covered Ranges.emoji c

def takesSelector (c : Char) : Bool := covered Ranges.presentation c

/-- Emoji that a selector turns into narrow text; enclosed ideographs stay wide. -/
def takesTextSelector (c : Char) : Bool :=
  isEmoji c && takesSelector c && !between 0x1F200 0x1F2FF c

def hasNoWidth (c : Char) : Bool := covered Ranges.zeroWidth c

/-- Marks between lam and alef leave the ligature as it is. -/
def joinsThrough (c : Char) : Bool := hasNoWidth c && !covered Ranges.opaqueZeroWidth c

def ownWidth (c : Char) : Int × Context :=
  if isFlagLetter c then (1, .flag)
  else if isSkinTone c then (2, .skinTone)
  else if isEmoji c then (2, .emoji)
  else if isAlef c then (1, .alef)
  else if isSubjoined c then (1, .letter .subjoined true)
  else if isConsonant c then (1, .letter .consonant false)
  else if covered [(0xA4FC, 0xA4FD)] c then (1, .letter .tone true)
  else match c.toNat with
  | 0x5DC => (1, .letter .lamed false)
  | 0x17D8 => (3, .plain)
  | 0x1A10 => (1, .letter .ya false)
  | 0x10C03 => (1, .letter .orkhonI false)
  | 0x16D67 => (1, .vowelE)
  | 0x16D68 => (1, .vowelAi)
  | _ =>
    if hasNoWidth c then (0, .plain)
    else if covered Ranges.wide c then (2, .plain)
    else (1, .plain)

def joinedWidth? (c : Char) (context : Context) : Option (Int × Context) :=
  match context with
  | .plain => none
  | .alef =>
    if isLam c then some (0, .plain)
    else if joinsThrough c then some (0, .alef)
    else none
  | .letter last joiner =>
    if isJoiner c then some (0, .letter last true)
    else if isIgnorableMark c then some (0, .letter last joiner)
    else match last, joiner, c.toNat with
    | .lamed, true, 0x5D0 => some (0, .plain)
    | .subjoined, _, 0x17D2 => some (-1, .plain)
    | .ya, true, 0x1A17 => some (0, .letter .vowelYa true)
    | .vowelYa, _, 0x1A15 => some (0, .plain)
    | .orkhonI, true, 0x10C32 => some (0, .plain)
    | .consonant, _, 0x2D7F => some (1, .letter .joinedConsonant true)
    | .consonant, true, _ => if isConsonant c then some (0, .plain) else none
    | .joinedConsonant, _, _ => if isConsonant c then some (-1, .plain) else none
    | .tone, _, _ => if between 0xA4F8 0xA4FB c then some (0, .plain) else none
    | _, _, _ => none
  | .vowelE =>
    match c.toNat with
    | 0x16D63 => some (0, .plain)
    | 0x16D67 => some (0, .vowelAi)
    | 0x16D68 => some (1, .vowelE)
    | 0x16D69 => some (0, .plain)
    | _ => none
  | .vowelAi => if c.toNat = 0x16D63 then some (0, .plain) else none
  | .skinTone =>
    if covered Ranges.skinToneBase c then some (0, .emoji)
    else if isJoiner c then some (0, .joined)
    else none
  | .emoji => if isJoiner c then some (0, .joined) else none
  | .flag => if isFlagLetter c then some (1, .flags) else none
  | .flags =>
    if isFlagLetter c then some (1, .flags)
    else if isJoiner c then some (0, .joined)
    else none
  | .joined =>
    if c.toNat = 0x20E3 then some (0, .joinedKeycap)
    else if isFlagLetter c then some (1, .joinedFlag)
    else if isSkinTone c then some (0, .skinTone)
    else if c.toNat = 0xE007F then some (0, .tags 0 0)
    else if isEmoji c then some (0, .emoji)
    else none
  | .joinedKeycap => none
  | .joinedFlag => if isFlagLetter c then some (-1, .joinedEvenFlags) else none
  | .joinedEvenFlags =>
    if isFlagLetter c then some (3, .joinedOddFlags)
    else if isJoiner c then some (0, .joined)
    else none
  | .joinedOddFlags =>
    if isFlagLetter c then some (-1, .joinedEvenFlags)
    else if isJoiner c then some (0, .joined)
    else none
  | .tags letters digits =>
    if isTagLetter c && digits = 0 && letters < 6 then some (0, .tags (letters + 1) 0)
    else if isTagDigit c && (digits = 0 && letters < 5 || 0 < digits && digits < 3) then
      some (0, .tags letters (digits + 1))
    else if c.toNat = 0x1F3F4 && (digits = 3 || digits = 0 && 3 ≤ letters) then
      some (0, .emoji)
    else none

def contextWidth (c : Char) (context : Context) : Int × Context :=
  (joinedWidth? c context).getD (ownWidth c)

/-- The width that a character adds, and the context it leaves. The plain characters up
to the first no-break space break every sequence. -/
def addedWidth (c : Char) (right : Right) : Int × Right :=
  if right.selectors.emoji && takesSelector c then
    (if right.awaitsEmoji then 0 else 2, ⟨.emoji, {}⟩)
  else
    let right := right.withoutEmoji
    if c.toNat ≤ 0xA0 then (1, .plain)
    else if c.toNat = 0xFE0F then (0, right.askEmoji)
    else if c.toNat = 0xFE0E then (0, right.askText)
    else if c.toNat = 0xFE01 then (0, right.askFullwidth)
    else if right.selectors.text && takesTextSelector c then (1, .plain)
    else if right.selectors.fullwidth && isQuotationMark c then (2, .plain)
    else
      let next := contextWidth c right.unselected
      (next.1, ⟨next.2, {}⟩)

/-- The number of columns a line takes. It must hold no line feed. -/
def width (line : List Char) : Nat :=
  (line.foldr (fun c (total : Int × Right) =>
    let added := addedWidth c total.2
    (total.1 + added.1, added.2)) (0, .plain)).1.toNat

end TabularQuery.Text
