import LanguageHost.Text.Blank
import LanguageHost.Text.Case

/-!
# Style names

A style is written in words: attributes such as `bold`, which may be turned off by `not`, a color, a
background color behind `on`, and an address behind `link`. `Style.normalize` brings every writing
of one style to the same words in the same order, so that the end of a style can be told by other
words than its beginning. What is no style is compared by its letters alone.
-/

namespace LanguageHost.Console

/-- A style: the attributes that are turned on or off, the colors and the address of a link. -/
structure Style where
  attributes : List (String × Bool)
  color : Option String
  background : Option String
  link : Option String

namespace Style

/-- The attributes in the order in which they are written, with the short names of each. -/
def attributeNames : List (String × List String) :=
  [("bold", ["b"]), ("dim", ["d"]), ("italic", ["i"]), ("underline", ["u"]), ("blink", []),
    ("blink2", []), ("reverse", ["r"]), ("conceal", ["c"]), ("strike", ["s"]),
    ("underline2", ["uu"]), ("frame", []), ("encircle", []), ("overline", ["o"])]

/-- The attribute with a name. -/
def attribute? (name : String) : Option String :=
  (attributeNames.find? fun a => a.1 = name || a.2.contains name).map (·.1)

/-- The names of colors, with white space between them. -/
def colorNames : String := "
  black red green yellow blue magenta cyan white bright_black bright_red bright_green
  bright_yellow bright_blue bright_magenta bright_cyan bright_white grey0 gray0 navy_blue
  dark_blue blue3 blue1 dark_green deep_sky_blue4 dodger_blue3 dodger_blue2 green4 spring_green4
  turquoise4 deep_sky_blue3 dodger_blue1 green3 spring_green3 dark_cyan light_sea_green
  deep_sky_blue2 deep_sky_blue1 spring_green2 cyan3 dark_turquoise turquoise2 green1
  spring_green1 medium_spring_green cyan2 cyan1 dark_red deep_pink4 purple4 purple3 blue_violet
  orange4 grey37 gray37 medium_purple4 slate_blue3 royal_blue1 chartreuse4 dark_sea_green4
  pale_turquoise4 steel_blue steel_blue3 cornflower_blue chartreuse3 cadet_blue sky_blue3
  steel_blue1 pale_green3 sea_green3 aquamarine3 medium_turquoise chartreuse2 sea_green2
  sea_green1 aquamarine1 dark_slate_gray2 dark_magenta dark_violet purple light_pink4 plum4
  medium_purple3 slate_blue1 yellow4 wheat4 grey53 gray53 light_slate_grey light_slate_gray
  medium_purple light_slate_blue dark_olive_green3 dark_sea_green light_sky_blue3 sky_blue2
  dark_sea_green3 dark_slate_gray3 sky_blue1 chartreuse1 light_green pale_green1
  dark_slate_gray1 red3 medium_violet_red magenta3 dark_orange3 indian_red hot_pink3
  medium_orchid3 medium_orchid medium_purple2 dark_goldenrod light_salmon3 rosy_brown grey63
  gray63 medium_purple1 gold3 dark_khaki navajo_white3 grey69 gray69 light_steel_blue3
  light_steel_blue yellow3 dark_sea_green2 light_cyan3 light_sky_blue1 green_yellow
  dark_olive_green2 dark_sea_green1 pale_turquoise1 deep_pink3 magenta2 hot_pink2 orchid
  medium_orchid1 orange3 light_pink3 pink3 plum3 violet light_goldenrod3 tan misty_rose3
  thistle3 plum2 khaki3 light_goldenrod2 light_yellow3 grey84 gray84 light_steel_blue1 yellow2
  dark_olive_green1 honeydew2 light_cyan1 red1 deep_pink2 deep_pink1 magenta1 orange_red1
  indian_red1 hot_pink dark_orange salmon1 light_coral pale_violet_red1 orchid2 orchid1 orange1
  sandy_brown light_salmon1 light_pink1 pink1 plum1 gold1 navajo_white1 misty_rose1 thistle1
  yellow1 light_goldenrod1 khaki1 wheat1 cornsilk1 grey100 gray100 grey3 gray3 grey7 gray7
  grey11 gray11 grey15 gray15 grey19 gray19 grey23 gray23 grey27 gray27 grey30 gray30 grey35
  gray35 grey39 gray39 grey42 gray42 grey46 gray46 grey50 gray50 grey54 gray54 grey58 gray58
  grey62 gray62 grey66 gray66 grey70 gray70 grey74 gray74 grey78 gray78 grey82 gray82 grey85
  gray85 grey89 gray89 grey93 gray93"

/-- A hexadecimal digit in small letters. -/
def isHexDigit (c : Char) : Bool :=
  c.isDigit || ('a' ≤ c && c ≤ 'f')

/-- The arguments of a call that is written as a function's name and a list in brackets. -/
def callArguments? (function word : String) : Option (List String) :=
  let start := (function ++ "(").toList
  let cs := word.toList
  if start.isPrefixOf cs && cs.getLast? = some ')' then
    some ((String.ofList ((cs.drop start.length).dropLast)).splitOn ",")
  else none

/-- A decimal number of one byte. -/
def isByte (text : String) : Bool :=
  let digits := text.toList
  !digits.isEmpty && digits.all Char.isDigit &&
    digits.foldl (fun n d => n * 10 + (d.toNat - 48)) 0 ≤ 255

/-- The word names a color: by its name, by six digits, by its number, or by its three parts. -/
def isColor (word : String) : Bool :=
  let isNumber : Bool := match callArguments? "color" word with
    | some [number] => isByte number && number.length ≤ 3
    | _ => false
  let isTriplet : Bool := match callArguments? "rgb" word with
    | some [red, green, blue] => [red, green, blue].all isByte
    | _ => false
  let isCode : Bool := match word.toList with
    | '#' :: digits => digits.length = 6 && digits.all isHexDigit
    | _ => false
  word = "default" || isCode || isNumber || isTriplet || (splitBlanks colorNames).contains word

/-- The style without any words. -/
def plain : Style :=
  ⟨[], none, none, none⟩

/-- The style with an attribute turned on or off. -/
def switch (name : String) (on : Bool) (s : Style) : Option Style :=
  (attribute? name).map fun full =>
    { s with attributes := (full, on) :: s.attributes.filter fun a => a.1 ≠ full }

/-- The style with an attribute or a color in small letters. -/
def withWord (word : String) (s : Style) : Option Style :=
  match s.switch word true with
  | some s => some s
  | none => if isColor word then some { s with color := some word } else none

/-- The style that words write; none if they write none. -/
def read (s : Style) : List String → Option Style
  | [] => some s
  | [word] => s.withWord (lowerText word)
  | word :: next :: rest =>
    match lowerText word with
    | "on" =>
      let background := lowerText next
      if isColor background then read { s with background := some background } rest else none
    | "not" =>
      match s.switch next false with
      | some s => read s rest
      | none => none
    | "link" => read { s with link := some next } rest
    | word =>
      match s.withWord word with
      | some s => read s (next :: rest)
      | none => none

/-- The words of a style, in order; a style without words is written as none. -/
def text (s : Style) : String :=
  let switches := attributeNames.filterMap fun a =>
    (s.attributes.find? fun b => b.1 = a.1).map fun b => if b.2 then a.1 else "not " ++ a.1
  let background := match s.background with
    | some color => ["on", color]
    | none => []
  let link := match s.link with
    | some address => ["link", address]
    | none => []
  let words := switches ++ s.color.toList ++ background ++ link
  if words.isEmpty then "none" else " ".intercalate words

/-- The one writing of a style, or a text that is no style in small letters. -/
def normalize (definition : String) : String :=
  if trimBlank definition = "none" then "none"
  else
    match plain.read (splitBlanks definition) with
    | some style => style.text
    | none => lowerText (trimBlank definition)

end Style

end LanguageHost.Console
