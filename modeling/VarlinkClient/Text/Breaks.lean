/-
Where a line may be broken.

Between two characters there is a break or there is none, by the rules of the Unicode
line breaking algorithm.  The rules are tried in order and the first that applies
decides.  They look at the classes of the two characters, and at little more around them:
which character stood before a row of blanks, whether it opened a quotation, whether an
odd number of regional indicators ends here, whether a hyphen follows a Hebrew letter, and
what comes after a mark that closes a quotation.
-/
import VarlinkClient.Text.BreakClass

namespace VarlinkClient.Breaks

open BreakClass

/-- What the rules know of the text before a place. -/
structure Before where
  /-- The class of the last character; marks count as what they are put on. -/
  last : BreakClass
  /-- The class of the last character that is no blank. -/
  solid : BreakClass
  /-- The last character that is no blank opens a quotation. -/
  quoting : Bool
  /-- The last character is a zero width joiner. -/
  joined : Bool
  /-- An odd number of regional indicators ends here. -/
  oddIndicators : Bool
  /-- A Hebrew letter and then a hyphen end here. -/
  hebrewHyphen : Bool
  deriving DecidableEq, Repr

/-- The class separates words or lines. -/
def separates (c : BreakClass) : Bool :=
  c ∈ [mandatory, carriageReturn, lineFeed, nextLine, space, zeroWidthSpace]

/-- The class is put on the character before it, unless that one separates. -/
def isMark (c : BreakClass) : Bool :=
  c = combining || c = joiner

/-- The class is one of the quotation marks. -/
def isQuotation (c : BreakClass) : Bool :=
  c ∈ [quotation, initialQuotation, finalQuotation]

/-- The class is one of the opening brackets. -/
def isOpen (c : BreakClass) : Bool :=
  c ∈ [openPunctuation, openPunctuationWide]

/-- A mark that opens quotations does so after this class, as at the start of a text. -/
def allowsQuotation (c : BreakClass) : Bool :=
  separates c || isOpen c || isQuotation c || c = glue

/-- A mark that closes quotations does so before this class, as at the end of a text. -/
def endsQuotation (c : BreakClass) : Bool :=
  separates c || isQuotation c ||
    c ∈ [glue, wordJoiner, closePunctuation, closeParenthesis, exclamation, infixSeparator, slash]

/-- The class of a mark that is put on nothing. -/
def alone (c : BreakClass) : BreakClass :=
  if isMark c then letter else c

/-- The text before a place just after the first character. -/
def Before.first (c : BreakClass) : Before :=
  ⟨alone c, alone c, c = initialQuotation, c = joiner, c = regionalIndicator, false⟩

/-- The text before the place after one more character. -/
def Before.step (before : Before) (c : BreakClass) : Before :=
  if isMark c ∧ !separates before.last then
    { before with joined := c = joiner }
  else
    let shown := alone c
    { last := shown
      solid := if shown = space then before.solid else shown
      quoting :=
        if shown = space then before.quoting
        else shown = initialQuotation && allowsQuotation before.last
      joined := c = joiner
      oddIndicators := shown = regionalIndicator && !before.oddIndicators
      hebrewHyphen := before.last = hebrewLetter && (shown = hyphen || shown = breakAfter) }

/-- The class is one of the letters. -/
def isLetter (c : BreakClass) : Bool :=
  c ∈ [letter, hebrewLetter]

/-- The class is one of the parts of Hangul. -/
def isHangul (c : BreakClass) : Bool :=
  c ∈ [leadingJamo, vowelJamo, trailingJamo, openSyllable, closedSyllable]

/-- The class is one of the ideographs and emoji. -/
def isPicture (c : BreakClass) : Bool :=
  c ∈ [ideograph, futurePictograph, emojiBase, emojiModifier]

/-- Two neighbours that belong together although other rules would part them: a number and
its signs, the parts of a Hangul syllable, a word and its brackets. -/
def belong (a b : BreakClass) : Bool :=
  (isLetter a && b = numeric) || (a = numeric && isLetter b) ||
  (a = prefixNumeric && isPicture b) || (isPicture a && b = postfixNumeric) ||
  ((a = prefixNumeric || a = postfixNumeric) && isLetter b) ||
  (isLetter a && (b = prefixNumeric || b = postfixNumeric)) ||
  (a ∈ [closePunctuation, closeParenthesis, numeric] &&
    (b = prefixNumeric || b = postfixNumeric)) ||
  ((a = prefixNumeric || a = postfixNumeric) && (isOpen b || b = numeric)) ||
  (a ∈ [hyphen, infixSeparator, numeric, slash] && b = numeric) ||
  (a = leadingJamo && b ∈ [leadingJamo, vowelJamo, openSyllable, closedSyllable]) ||
  (a ∈ [vowelJamo, openSyllable] && b ∈ [vowelJamo, trailingJamo]) ||
  (a ∈ [trailingJamo, closedSyllable] && b = trailingJamo) ||
  (isHangul a && b = postfixNumeric) || (a = prefixNumeric && isHangul b) ||
  (isLetter a && isLetter b) || (a = infixSeparator && isLetter b) ||
  ((isLetter a || a = numeric) && b = openPunctuation) ||
  (a = closeParenthesis && (isLetter b || b = numeric)) ||
  ((a = emojiBase || a = futurePictograph) && b = emojiModifier)

/-- A line may be broken between what stands before a place and a character after it, which is
followed by `next`. -/
def allowed (before : Before) (c : BreakClass) (next : Option BreakClass) : Bool :=
  let a := before.last
  if a = mandatory then true
  else if a = carriageReturn then c ≠ lineFeed
  else if a = lineFeed ∨ a = nextLine then true
  else if separates c then false
  else if before.solid = zeroWidthSpace then true
  else if before.joined then false
  else if isMark c ∧ !separates a then false
  else
    let b := alone c
    if a = wordJoiner ∨ b = wordJoiner ∨ a = glue then false
    else if b = glue ∧ a ∉ [space, breakAfter, hyphen] then false
    else if b ∈ [closePunctuation, closeParenthesis, exclamation, infixSeparator, slash] then
      false
    else if isOpen before.solid then false
    else if before.quoting then false
    else if b = finalQuotation ∧ next.all endsQuotation then false
    else if before.solid ∈ [closePunctuation, closeParenthesis] ∧ b = nonStarter then false
    else if before.solid = breakBoth ∧ b = breakBoth then false
    else if a = space then true
    else if isQuotation a ∨ isQuotation b then false
    else if a = contingent ∨ b = contingent then true
    else if b ∈ [breakAfter, hyphen, nonStarter] ∨ a = BreakClass.breakBefore then false
    else if before.hebrewHyphen ∧ b ≠ hebrewLetter then false
    else if a = slash ∧ b = hebrewLetter then false
    else if b = inseparable then false
    else if belong a b then false
    else if a = regionalIndicator ∧ b = regionalIndicator then !before.oddIndicators
    else true

/-- For each class after the text before it, whether there is a break in front of it. -/
def scan (before : Before) : List BreakClass → List Bool
  | [] => []
  | c :: rest => allowed before c (rest.dropWhile isMark).head? :: scan (before.step c) rest

/-- For each character, whether a line may be broken in front of it. -/
def before (t : Text) : List Bool :=
  match t.map BreakClass.ofChar with
  | [] => []
  | c :: rest => false :: scan (.first c) rest

end VarlinkClient.Breaks
