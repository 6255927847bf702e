import RolloutTree.Text.Width.Tables

/-!
# Columns that a text takes on a terminal

Outside of an East Asian context a character takes no, one or two columns, and a few sequences
take another number than their characters do one by one: a line feed after a carriage return,
emoji sequences, and ligatures of some scripts. What a character adds depends on what follows it,
so the text is read from its end, and the reader remembers what it has read last as far as that
matters.

## Main definitions

* `Follower`: what stands after the character to be measured.
* `Context`: a follower and the variation selector before it.
* `Context.add`: the columns that one more character in front adds, and the new context.
* `columns`: the columns of a text.
-/

namespace RolloutTree.Text.Width

/-- A letter that can end a ligature. -/
inductive LigatureEnd where
  | alef
  | lamed
  | buginesYa
  | buginesVowelYa
  | tifinagh
  | tifinaghJoined
  | lisuTone
  | orkhonI
  | khmer
  | kiratE
  | kiratAi
  deriving DecidableEq, Repr

/-- What stands after the character to be measured, as far as it can change its columns. -/
inductive Follower where
  | plain
  | lineFeed
  /-- A skin tone. -/
  | modifier
  | regional
  | regionals
  | emoji
  /-- A joiner in front of an emoji. -/
  | joined
  /-- A key cap in front of such a joiner. -/
  | joinedKeycap
  /-- One regional indicator, an even number, or an odd one of at least three, before a joiner. -/
  | joinedRegional
  | joinedRegionalEven
  | joinedRegionalOdd
  /-- A tag sequence before a joiner, with its letters or its digits counted from the end. -/
  | tagLetters (count : Nat)
  | tagDigits (count : Nat)
  /-- The end of a ligature, with or without a joiner in front of it. -/
  | ligature (letter : LigatureEnd) (joiner : Bool)
  deriving DecidableEq, Repr

/-- A variation selector that stands right after the character to be measured. -/
inductive Selector where
  | none
  | text
  | emoji
  deriving DecidableEq, Repr

/-- What the reader, coming from the end of the text, remembers of it. -/
structure Context where
  follower : Follower := .plain
  selector : Selector := .none
  deriving DecidableEq, Repr

namespace Follower

/-- Whether a variation selector in front leaves the follower in sight. -/
def survivesEmojiSelector : Follower → Bool
  | joined | joinedKeycap | ligature .. => true
  | _ => false

/-- Whether a text selector in front leaves the follower in sight. -/
def survivesTextSelector : Follower → Bool
  | ligature .. => true
  | _ => false

/-- Whether an emoji in front of the follower is a part of the same emoji. -/
def joinsEmoji : Follower → Bool
  | joined | joinedKeycap => true
  | _ => false

/-- Whether marks and joiners in front of the follower leave it in sight. -/
def isSoftLigature : Follower → Bool
  | ligature .alef _ => false
  | ligature .. => true
  | _ => false

/-- The follower with a joiner in front of it, where the joiner is a part of a ligature. -/
def withJoiner : Follower → Follower
  | ligature letter _ => ligature letter true
  | other => other

end Follower

/-- Whether the character lies between the two, given by their code points. -/
def isBetween (first last : Nat) (c : Char) : Bool := first ≤ c.toNat && c.toNat ≤ last

/-- Whether the character is a Tifinagh consonant that can form a bi-consonant. -/
def isTifinaghConsonant (c : Char) : Bool := isBetween 0x2d31 0x2d65 c || c == '\u2d6f'

/-- The letters that form a coeng sign with the sign before them. -/
def coengLetters : Ranges :=
  [(0x1780, 0x1782), (0x1784, 0x1787), (0x1789, 0x178c), (0x178e, 0x1793), (0x1795, 0x1798),
    (0x179b, 0x179d), (0x17a0, 0x17a0), (0x17a2, 0x17a2), (0x17a7, 0x17a7), (0x17ab, 0x17ac),
    (0x17af, 0x17af)]

/-- Letters of the joining group `Lam`. -/
def lams : Ranges :=
  [(0x0644, 0x0644), (0x06b5, 0x06b8), (0x076a, 0x076a), (0x08a6, 0x08a6), (0x08c7, 0x08c7)]

/-- Letters of the joining group `Alef`. -/
def alefs : Ranges :=
  [(0x0622, 0x0623), (0x0625, 0x0625), (0x0627, 0x0627), (0x0671, 0x0673), (0x0675, 0x0675),
    (0x0773, 0x0774), (0x0870, 0x0882)]

/-- Whether the character is a regional indicator. -/
def isRegional (c : Char) : Bool := isBetween 0x1f1e6 0x1f1ff c

/-- Whether the character is a skin tone. -/
def isModifier (c : Char) : Bool := isBetween 0x1f3fb 0x1f3ff c

/-- The columns of a character that stands alone. -/
def columnsAlone (c : Char) : Int := if isHidden c then 0 else if isWide c then 2 else 1

/-- What the character is for the one before it, when nothing after it matters. -/
def followerAlone (c : Char) : Follower :=
  if alefs.contains c then .ligature .alef false
  else if c = '\u05dc' then .ligature .lamed false
  else if c = '\u1a10' then .ligature .buginesYa false
  else if isTifinaghConsonant c then .ligature .tifinagh false
  else if isBetween 0xa4fc 0xa4fd c then .ligature .lisuTone false
  else if c.toNat = 0x10c03 then .ligature .orkhonI false
  else if coengLetters.contains c then .ligature .khmer false
  else if c.toNat = 0x16d67 then .ligature .kiratE false
  else if c.toNat = 0x16d68 then .ligature .kiratAi false
  else if isRegional c then .regional
  else if isModifier c then .modifier
  else if isEmoji c then .emoji
  else .plain

/-- The columns that a character adds in front of the end of a ligature and what it is then, when
the two belong together. -/
def ligate (c : Char) : LigatureEnd → Bool → Option (Int × Follower)
  | .alef, _ =>
    if lams.contains c then some (0, .plain)
    else if isJoinTransparent c then some (0, .ligature .alef false)
    else none
  | .lamed, true => if c = '\u05d0' then some (0, .plain) else none
  | .khmer, _ => if c = '\u17d2' then some (-1, .plain) else none
  | .buginesYa, true => if c = '\u1a17' then some (0, .ligature .buginesVowelYa false) else none
  | .buginesVowelYa, _ => if c = '\u1a15' then some (0, .plain) else none
  | .tifinagh, joiner =>
    if c = '\u2d7f' then some (1, .ligature .tifinaghJoined false)
    else if joiner && isTifinaghConsonant c then some (0, .plain)
    else none
  | .tifinaghJoined, _ => if isTifinaghConsonant c then some (-1, .plain) else none
  | .lisuTone, _ => if isBetween 0xa4f8 0xa4fb c then some (0, .plain) else none
  | .orkhonI, true => if c.toNat = 0x10c32 then some (0, .plain) else none
  | .kiratE, _ =>
    if c.toNat = 0x16d63 || c.toNat = 0x16d69 then some (0, .plain)
    else if c.toNat = 0x16d67 then some (0, .ligature .kiratAi false)
    else if c.toNat = 0x16d68 then some (1, .ligature .kiratE false)
    else none
  | .kiratAi, _ => if c.toNat = 0x16d63 then some (0, .plain) else none
  | _, _ => none

/-- Whether the character is a letter of a tag sequence. -/
def isTagLetter (c : Char) : Bool := isBetween 0xe0061 0xe007a c

/-- Whether the character is a digit of a tag sequence. -/
def isTagDigit (c : Char) : Bool := isBetween 0xe0030 0xe0039 c

/-- The columns that a character adds in front of the follower and what it is then, when the two
belong together. -/
def extend (c : Char) : Follower → Option (Int × Follower)
  | .ligature letter joiner => ligate c letter joiner
  | .modifier =>
    if isModifierBase c then some (0, .emoji)
    else if c = '\u200d' then some (0, .joined)
    else none
  | .regional => if isRegional c then some (1, .regionals) else none
  | .regionals =>
    if isRegional c then some (1, .regionals)
    else if c = '\u200d' then some (0, .joined)
    else none
  | .emoji => if c = '\u200d' then some (0, .joined) else none
  | .joined =>
    if c = '\u20e3' then some (0, .joinedKeycap)
    else if isRegional c then some (1, .joinedRegional)
    else if isModifier c then some (0, .modifier)
    else if c.toNat = 0xe007f then some (0, .tagLetters 0)
    else if followerAlone c = .emoji then some (0, .emoji)
    else none
  | .joinedRegional => if isRegional c then some (-1, .joinedRegionalEven) else none
  | .joinedRegionalEven =>
    if isRegional c then some (3, .joinedRegionalOdd)
    else if c = '\u200d' then some (0, .joined)
    else none
  | .joinedRegionalOdd =>
    if isRegional c then some (-1, .joinedRegionalEven)
    else if c = '\u200d' then some (0, .joined)
    else none
  | .tagLetters count =>
    if isTagLetter c && count < 6 then some (0, .tagLetters (count + 1))
    else if isTagDigit c && count ≤ 4 then some (0, .tagDigits 1)
    else if c.toNat = 0x1f3f4 && 3 ≤ count then some (0, .emoji)
    else none
  | .tagDigits count =>
    if isTagDigit c && count < 3 then some (0, .tagDigits (count + 1))
    else if c.toNat = 0x1f3f4 && count = 3 then some (0, .emoji)
    else none
  | _ => none

namespace Context

/-- The context after an emoji selector. -/
def selectEmoji (x : Context) : Context :=
  ⟨if x.follower.survivesEmojiSelector then x.follower else .plain, .emoji⟩

/-- The context after a text selector. -/
def selectText (x : Context) : Context :=
  ⟨if x.follower.survivesTextSelector then x.follower else .plain, .text⟩

/-- The columns that one more character in front adds, and the context that it leaves. -/
def add (c : Char) (x : Context) : Int × Context :=
  if x.selector = .emoji && hasEmojiForm c then
    (if x.follower.joinsEmoji then 0 else 2, { follower := .emoji })
  else if c ≤ '\u00a0' then
    if c = '\n' then (1, { follower := .lineFeed })
    else if c = '\r' && x = { follower := .lineFeed } then (0, {})
    else (1, {})
  else if c = '\ufe0f' then (0, x.selectEmoji)
  else if c = '\ufe0e' then (0, x.selectText)
  else if x.selector = .text && hasTextForm c then (1, {})
  else if x.follower.isSoftLigature && c = '\u200d' then (0, { follower := x.follower.withJoiner })
  else if x.follower.isSoftLigature && isLigatureTransparent c then (0, { follower := x.follower })
  else
    match extend c x.follower with
    | some (added, follower) => (added, { follower })
    | none => (columnsAlone c, { follower := followerAlone c })

/-- A space takes one column and hides what follows it. -/
@[simp] theorem add_space (x : Context) : x.add ' ' = (1, {}) := by
  have h : hasEmojiForm ' ' = false := by decide
  simp [add, h]

end Context

/-- The columns of the characters and the context in front of them. -/
def measure (cs : List Char) (x : Context) : Int × Context :=
  cs.foldr (fun c (total, x) => let (added, y) := x.add c; (added + total, y)) (0, x)

/-- The columns that the text takes. -/
def columns (s : String) : Nat := (measure s.toList {}).1.toNat

end RolloutTree.Text.Width
