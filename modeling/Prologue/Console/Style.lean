import Prologue.Text.Blank
import Prologue.Text.Digit
import Prologue.Text.Lower

/-!
# Styles

A style is named by its words: attributes, some of them behind `not`, a colour, a second colour behind
`on`, and a link. Words that come later override those before them. Two names of one style have one
normal form; what names no style is its own.
-/

namespace Prologue.Console

/-- What is wrong with the name of a style. -/
inductive StyleFault where
  /-- A word that has no place in a style. -/
  | word
  /-- A colour with a number that cannot be read, such as an empty one. -/
  | component
  deriving DecidableEq, Repr

structure Style where
  /-- Attributes that were switched on or off, the latest first. -/
  attributes : List (List Char × Bool)
  color : Option (List Char)
  background : Option (List Char)
  link : Option (List Char)

namespace Style

/-- Attributes in the order in which a style is written, with their short names. -/
def attributeNames : List (String × List String) :=
  [("bold", ["b"]), ("dim", ["d"]), ("italic", ["i"]), ("underline", ["u"]), ("blink", []),
   ("blink2", []), ("reverse", ["r"]), ("conceal", ["c"]), ("strike", ["s"]),
   ("underline2", ["uu"]), ("frame", []), ("encircle", []), ("overline", ["o"])]

/-- The attribute that a word names. -/
def attribute? (word : List Char) : Option (List Char) :=
  (attributeNames.find? fun (name, short) => (name :: short).contains (String.ofList word)).map
    (·.1.toList)

/-- The colours that have a name. -/
def colorNames : List String :=
  ["black", "red", "green", "yellow", "blue", "magenta", "cyan", "white", "bright_black",
   "bright_red", "bright_green", "bright_yellow", "bright_blue", "bright_magenta", "bright_cyan",
   "bright_white", "grey0", "gray0", "navy_blue", "dark_blue", "blue3", "blue1", "dark_green",
   "deep_sky_blue4", "dodger_blue3", "dodger_blue2", "green4", "spring_green4", "turquoise4",
   "deep_sky_blue3", "dodger_blue1", "green3", "spring_green3", "dark_cyan", "light_sea_green",
   "deep_sky_blue2", "deep_sky_blue1", "spring_green2", "cyan3", "dark_turquoise", "turquoise2",
   "green1", "spring_green1", "medium_spring_green", "cyan2", "cyan1", "dark_red", "deep_pink4",
   "purple4", "purple3", "blue_violet", "orange4", "grey37", "gray37", "medium_purple4",
   "slate_blue3", "royal_blue1", "chartreuse4", "dark_sea_green4", "pale_turquoise4",
   "steel_blue", "steel_blue3", "cornflower_blue", "chartreuse3", "cadet_blue", "sky_blue3",
   "steel_blue1", "pale_green3", "sea_green3", "aquamarine3", "medium_turquoise", "chartreuse2",
   "sea_green2", "sea_green1", "aquamarine1", "dark_slate_gray2", "dark_magenta", "dark_violet",
   "purple", "light_pink4", "plum4", "medium_purple3", "slate_blue1", "yellow4", "wheat4",
   "grey53", "gray53", "light_slate_grey", "light_slate_gray", "medium_purple",
   "light_slate_blue", "dark_olive_green3", "dark_sea_green", "light_sky_blue3", "sky_blue2",
   "dark_sea_green3", "dark_slate_gray3", "sky_blue1", "chartreuse1", "light_green",
   "pale_green1", "dark_slate_gray1", "red3", "medium_violet_red", "magenta3", "dark_orange3",
   "indian_red", "hot_pink3", "medium_orchid3", "medium_orchid", "medium_purple2",
   "dark_goldenrod", "light_salmon3", "rosy_brown", "grey63", "gray63", "medium_purple1", "gold3",
   "dark_khaki", "navajo_white3", "grey69", "gray69", "light_steel_blue3", "light_steel_blue",
   "yellow3", "dark_sea_green2", "light_cyan3", "light_sky_blue1", "green_yellow",
   "dark_olive_green2", "dark_sea_green1", "pale_turquoise1", "deep_pink3", "magenta2",
   "hot_pink2", "orchid", "medium_orchid1", "orange3", "light_pink3", "pink3", "plum3", "violet",
   "light_goldenrod3", "tan", "misty_rose3", "thistle3", "plum2", "khaki3", "light_goldenrod2",
   "light_yellow3", "grey84", "gray84", "light_steel_blue1", "yellow2", "dark_olive_green1",
   "honeydew2", "light_cyan1", "red1", "deep_pink2", "deep_pink1", "magenta1", "orange_red1",
   "indian_red1", "hot_pink", "dark_orange", "salmon1", "light_coral", "pale_violet_red1",
   "orchid2", "orchid1", "orange1", "sandy_brown", "light_salmon1", "light_pink1", "pink1",
   "plum1", "gold1", "navajo_white1", "misty_rose1", "thistle1", "yellow1", "light_goldenrod1",
   "khaki1", "wheat1", "cornsilk1", "grey100", "gray100", "grey3", "gray3", "grey7", "gray7",
   "grey11", "gray11", "grey15", "gray15", "grey19", "gray19", "grey23", "gray23", "grey27",
   "gray27", "grey30", "gray30", "grey35", "gray35", "grey39", "gray39", "grey42", "gray42",
   "grey46", "gray46", "grey50", "gray50", "grey54", "gray54", "grey58", "gray58", "grey62",
   "gray62", "grey66", "gray66", "grey70", "gray70", "grey74", "gray74", "grey78", "gray78",
   "grey82", "gray82", "grey85", "gray85", "grey89", "gray89", "grey93", "gray93"]

/-- What stands between an opening and a closing parenthesis. -/
def enclosed? (opening text : List Char) : Option (List Char) :=
  if opening.isPrefixOf text && text.getLast? = some ')' then
    some ((text.drop opening.length).dropLast)
  else none

/-- A colour by its number. -/
def isNumber (digits : List Char) : Bool :=
  !digits.isEmpty && digits.length ≤ 3 && digits.all Char.isDigit &&
    (Text.integer? digits).any (· ≤ 255)

/-- A colour by the numbers of its components. -/
def readComponents (text : List Char) : Except StyleFault Unit :=
  let parts := text.splitOn ','
  if text.isEmpty || text.any (fun c => (Text.digit? c).isNone && c != ',') then .error .word
  else if parts.length ≠ 3 then .error .word
  else if parts.any fun part => (Text.integer? part).isNone then .error .component
  else if parts.all fun part => (Text.integer? part).any (· ≤ 255) then .ok ()
  else .error .word

/-- The colour that a word names. -/
def readColor (word : List Char) : Except StyleFault (List Char) :=
  let name := Text.lower word
  if name = "default".toList || colorNames.contains (String.ofList name) then .ok name
  else match enclosed? "color(".toList name, enclosed? "rgb(".toList name, name with
    | some digits, _, _ => if isNumber digits then .ok name else .error .word
    | none, some parts, _ => (readComponents parts).map fun () => name
    | none, none, '#' :: digits =>
      if digits.length = 6 && digits.all (fun c => c.isDigit || ('a' ≤ c && c ≤ 'f')) then .ok name
      else .error .word
    | none, none, _ => .error .word

/-- A style with the words of a name. -/
def withWords (style : Style) : List (List Char) → Except StyleFault Style
  | [] => .ok style
  | word :: rest =>
    let lowered := Text.lower word
    if lowered = "on".toList then
      match rest with
      | [] => .error .word
      | color :: rest =>
        match readColor color with
        | .error fault => .error fault
        | .ok name => withWords { style with background := some name } rest
    else if lowered = "not".toList then
      match rest with
      | [] => .error .word
      | other :: rest =>
        match attribute? other with
        | none => .error .word
        | some name => withWords { style with attributes := (name, false) :: style.attributes } rest
    else if lowered = "link".toList then
      match rest with
      | [] => .error .word
      | target :: rest => withWords { style with link := some target } rest
    else match attribute? lowered with
      | some name => withWords { style with attributes := (name, true) :: style.attributes } rest
      | none =>
        match readColor word with
        | .error fault => .error fault
        | .ok name => withWords { style with color := some name } rest

/-- The style with the given name. -/
def read (name : List Char) : Except StyleFault Style :=
  let plain : Style := ⟨[], none, none, none⟩
  if Text.trim name = "none".toList then .ok plain
  else plain.withWords ((name.splitOnP Text.isBlank).filter (!·.isEmpty))

/-- The words that name a style, in a fixed order. -/
def words (style : Style) : List (List Char) :=
  let attributes := attributeNames.flatMap fun (name, _) =>
    match style.attributes.lookup name.toList with
    | some true => [name.toList]
    | some false => ["not".toList, name.toList]
    | none => []
  attributes ++ style.color.toList ++
    (style.background.map fun name => ["on".toList, name]).getD [] ++
    (style.link.map fun target => ["link".toList, target]).getD []

def written (style : Style) : List Char :=
  match style.words with
  | [] => "none".toList
  | first :: rest => first ++ rest.flatMap (' ' :: ·)

/-- The normal form of a name, unless a number in it cannot be read. -/
def normalize (name : List Char) : Option (List Char) :=
  match read name with
  | .ok style => some style.written
  | .error .word => some (Text.lower (Text.trim name))
  | .error .component => none

end Style

end Prologue.Console
