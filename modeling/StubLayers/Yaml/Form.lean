import StubLayers.Text.Pattern

/-!
What a plain scalar means, by its form.
-/

namespace StubLayers.Yaml

open Text (Pattern)
open Text.Pattern

/-- The types that a scalar can have without a tag. -/
inductive Form where
  | bool
  | float
  | int
  | merge
  | null
  | timestamp
  | value
  | text
deriving DecidableEq, Inhabited

namespace Form

def digitRun : Pattern := many (among "0123456789_")

/-- Digits, the first no underscore. -/
def number : Pattern := seq digit digitRun

/-- Parts of sixty after colons. -/
def sixties : Pattern :=
  oneOrMore (inOrder [one ':', optionally (among "012345"), digit])

def exponent : Pattern := optionally (inOrder [among "eE", among "+-", oneOrMore digit])

def boolPattern : Pattern :=
  words ["yes", "Yes", "YES", "no", "No", "NO", "true", "True", "TRUE", "false", "False", "FALSE",
    "on", "On", "ON", "off", "Off", "OFF"]

def floatPattern : Pattern :=
  anyOf [
    inOrder [sign, number, one '.', digitRun, exponent],
    inOrder [one '.', number, exponent],
    inOrder [sign, number, sixties, one '.', digitRun],
    inOrder [sign, one '.', words ["inf", "Inf", "INF"]],
    inOrder [one '.', words ["nan", "NaN", "NAN"]]]

def intPattern : Pattern :=
  seq sign (anyOf [
    inOrder [word "0b", oneOrMore (among "01_")],
    inOrder [one '0', oneOrMore (among "01234567_")],
    one '0',
    inOrder [among "123456789", digitRun],
    inOrder [word "0x", oneOrMore (among "0123456789abcdefABCDEF_")],
    inOrder [among "123456789", digitRun, sixties]])

def nullPattern : Pattern := words ["~", "null", "Null", "NULL", ""]

def year : Pattern := inOrder [digit, digit, digit, digit]

/-- One digit or two. -/
def shortNumber : Pattern := seq digit (optionally digit)

def zone : Pattern :=
  seq (many (among " \t"))
    (alt (one 'Z') (inOrder [among "+-", shortNumber, optionally (inOrder [one ':', digit, digit])]))

def timePattern : Pattern :=
  inOrder [shortNumber, one ':', digit, digit, one ':', digit, digit, optionally (seq (one '.') (many digit)),
    optionally zone]

def daySeparator : Pattern := alt (among "Tt") (oneOrMore (among " \t"))

def timestampPattern : Pattern :=
  alt (inOrder [year, one '-', digit, digit, one '-', digit, digit])
    (inOrder [year, one '-', shortNumber, one '-', shortNumber, daySeparator, timePattern])

/-- Whether a text has a form. A line break at its end is overlooked. -/
def hasForm (p : Pattern) (text : List Char) : Bool :=
  p.fits text || text.getLast? = some '\n' && p.fits text.dropLast

/-- The forms, in the order in which they are tried. -/
def forms : List (Form × Pattern) :=
  [(bool, boolPattern), (float, floatPattern), (int, intPattern), (merge, word "<<"),
    (null, nullPattern), (timestamp, timestampPattern), (value, word "=")]

/-- The form of a plain scalar. -/
def ofText (text : List Char) : Form :=
  if text = ['\n'] then .text
  else
    match forms.find? fun entry => hasForm entry.2 text with
    | some (form, _) => form
    | none => .text

end Form

end StubLayers.Yaml
