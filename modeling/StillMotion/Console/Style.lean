import StillMotion.Failure.Fault
import StillMotion.Number.Numeral
import StillMotion.Text.Blank
import StillMotion.Text.Case
import StillMotion.Text.Quoted

/-!
# Styles of text

A style is written in words: attributes, a color, `on` and the color of the background, `link` and
an address.  Words of one meaning have one form, and the order of the words does not matter, so a
style that is written in two ways has one name.
-/

namespace StillMotion.Console

open StillMotion.Text StillMotion.Number

/-! ## Words -/

/-- The attributes in their order, each with its words; the first one is its name. -/
def attributeWords : List (List String) :=
  [["bold", "b"], ["dim", "d"], ["italic", "i"], ["underline", "u"], ["blink"], ["blink2"],
   ["reverse", "r"], ["conceal", "c"], ["strike", "s"], ["underline2", "uu"], ["frame"],
   ["encircle"], ["overline", "o"]]

def attributeName? (word : String) : Option String :=
  (attributeWords.find? (·.contains word)).bind List.head?

def colorNames : List String := split ' ' (
  "black red green yellow blue magenta cyan white bright_black bright_red bright_green " ++
  "bright_yellow bright_blue bright_magenta bright_cyan bright_white grey0 gray0 navy_blue " ++
  "dark_blue blue3 blue1 dark_green deep_sky_blue4 dodger_blue3 dodger_blue2 green4 " ++
  "spring_green4 turquoise4 deep_sky_blue3 dodger_blue1 green3 spring_green3 dark_cyan " ++
  "light_sea_green deep_sky_blue2 deep_sky_blue1 spring_green2 cyan3 dark_turquoise " ++
  "turquoise2 green1 spring_green1 medium_spring_green cyan2 cyan1 dark_red deep_pink4 " ++
  "purple4 purple3 blue_violet orange4 grey37 gray37 medium_purple4 slate_blue3 royal_blue1 " ++
  "chartreuse4 dark_sea_green4 pale_turquoise4 steel_blue steel_blue3 cornflower_blue " ++
  "chartreuse3 cadet_blue sky_blue3 steel_blue1 pale_green3 sea_green3 aquamarine3 " ++
  "medium_turquoise chartreuse2 sea_green2 sea_green1 aquamarine1 dark_slate_gray2 " ++
  "dark_magenta dark_violet purple light_pink4 plum4 medium_purple3 slate_blue1 yellow4 " ++
  "wheat4 grey53 gray53 light_slate_grey light_slate_gray medium_purple light_slate_blue " ++
  "dark_olive_green3 dark_sea_green light_sky_blue3 sky_blue2 dark_sea_green3 " ++
  "dark_slate_gray3 sky_blue1 chartreuse1 light_green pale_green1 dark_slate_gray1 red3 " ++
  "medium_violet_red magenta3 dark_orange3 indian_red hot_pink3 medium_orchid3 medium_orchid " ++
  "medium_purple2 dark_goldenrod light_salmon3 rosy_brown grey63 gray63 medium_purple1 gold3 " ++
  "dark_khaki navajo_white3 grey69 gray69 light_steel_blue3 light_steel_blue yellow3 " ++
  "dark_sea_green2 light_cyan3 light_sky_blue1 green_yellow dark_olive_green2 dark_sea_green1 " ++
  "pale_turquoise1 deep_pink3 magenta2 hot_pink2 orchid medium_orchid1 orange3 light_pink3 " ++
  "pink3 plum3 violet light_goldenrod3 tan misty_rose3 thistle3 plum2 khaki3 light_goldenrod2 " ++
  "light_yellow3 grey84 gray84 light_steel_blue1 yellow2 dark_olive_green1 honeydew2 " ++
  "light_cyan1 red1 deep_pink2 deep_pink1 magenta1 orange_red1 indian_red1 hot_pink " ++
  "dark_orange salmon1 light_coral pale_violet_red1 orchid2 orchid1 orange1 sandy_brown " ++
  "light_salmon1 light_pink1 pink1 plum1 gold1 navajo_white1 misty_rose1 thistle1 yellow1 " ++
  "light_goldenrod1 khaki1 wheat1 cornsilk1 grey100 gray100 grey3 gray3 grey7 gray7 grey11 " ++
  "gray11 grey15 gray15 grey19 gray19 grey23 gray23 grey27 gray27 grey30 gray30 grey35 gray35 " ++
  "grey39 gray39 grey42 gray42 grey46 gray46 grey50 gray50 grey54 gray54 grey58 gray58 grey62 " ++
  "gray62 grey66 gray66 grey70 gray70 grey74 gray74 grey78 gray78 grey82 gray82 grey85 gray85 " ++
  "grey89 gray89 grey93 gray93")

/-! ## Colors -/

/-- Three numbers with commas between them, none above 255.  A part that is no number is a fault
of its own. -/
def isColorTriple (inside : List Char) : Except Fault Bool := do
  match splitChar ',' inside with
  | [a, b, c] => do
      let parts ← [a, b, c].mapM fun part =>
        match freeWhole 10 (String.ofList part) with
        | .ok n => .ok n
        | .error _ => .error (.external "ValueError" (some
            s!"invalid literal for int() with base 10: {quoted (String.ofList part)}"))
      return parts.all (· ≤ 255)
  | _ => return false

def inCall? (word : String) (cs : List Char) : Option (List Char) := do
  let rest ← dropLead? (word ++ "(").toList cs
  match rest.reverse with
  | ')' :: inside => some inside.reverse
  | _ => none

def isColor (word : String) : Except Fault Bool :=
  let cs := word.toList
  if word == "default" || colorNames.contains word then .ok true
  else match cs with
    | '#' :: digits => .ok (digits.length == 6 && digits.all fun c => (hexValue? c).isSome)
    | _ => match inCall? "color" cs with
      | some digits =>
          .ok (!digits.isEmpty && digits.length ≤ 3 && digits.all isAsciiDigit &&
            digitsValue digits ≤ 255)
      | none => match inCall? "rgb" cs with
        | some inside =>
            if !inside.isEmpty && inside.all fun c => isDigit c || c == ',' then
              isColorTriple inside
            else .ok false
        | none => .ok false

/-! ## Styles -/

structure TextStyle where
  /-- The attributes that are on and those that are off. -/
  attributes : List (String × Bool)
  color : Option String
  background : Option String
  link : Option String

namespace TextStyle

def plain : TextStyle := ⟨[], none, none, none⟩

def setAttribute (name : String) (isOn : Bool) (style : TextStyle) : TextStyle :=
  { style with attributes := (name, isOn) :: style.attributes.filter fun entry => entry.1 != name }

/-- Add the words of a style; none comes out where they make no sense. -/
def addWords (style : TextStyle) : List String → Except Fault (Option TextStyle)
  | [] => .ok (some style)
  | word :: rest =>
      let small := lowerCase word
      if small == "on" then
        match rest with
        | [] => .ok none
        | color :: rest => do
            if ← isColor (lowerCase color) then
              addWords { style with background := some (lowerCase color) } rest
            else .ok none
      else if small == "not" then
        match rest with
        | [] => .ok none
        | word :: rest => match attributeName? word with
            | some name => addWords (style.setAttribute name false) rest
            | none => .ok none
      else if small == "link" then
        match rest with
        | [] => .ok none
        | address :: rest => addWords { style with link := some address } rest
      else match attributeName? small with
        | some name => addWords (style.setAttribute name true) rest
        | none => do
            if ← isColor small then addWords { style with color := some small } rest
            else .ok none

def name (style : TextStyle) : String :=
  let attributes := attributeWords.filterMap fun words => do
    let name ← words.head?
    let (_, isOn) ← style.attributes.find? fun entry => entry.1 == name
    return if isOn then name else "not " ++ name
  let words := attributes ++ style.color.toList ++
    (style.background.map fun color => "on " ++ color).toList ++
    (style.link.map fun address => "link " ++ address).toList
  if words.isEmpty then "none" else " ".intercalate words

end TextStyle

def wordsOf (cs : List Char) : List String :=
  let spaced := cs.map fun c => if isBlank c then ' ' else c
  ((splitChar ' ' spaced).filter fun word => !word.isEmpty).map String.ofList

/-- The one name of a style that is written in words.  What is no style goes by its own text. -/
def styleName (cs : List Char) : Except Fault (List Char) := do
  let trimmed := trimChars cs
  if trimmed == "none".toList then return "none".toList
  match ← TextStyle.plain.addWords (wordsOf cs) with
  | some style => return style.name.toList
  | none => return lowerChars trimmed

end StillMotion.Console
