import LanguageHost.Text.Blank
import LanguageHost.Text.Columns

/-!
# Layout of lines

A console has a number of columns. A line that is longer is either cut off at the last column or
broken between words, where a word that fits on no line is broken as well. Tabs lead to stops.
-/

namespace LanguageHost.Console

/-- The number of columns of a console. -/
def width : Nat := 1000

/-- The blanks from a column to the next stop, of which there is one each so many columns. -/
def blanksToStop (stop column : Nat) : List Char :=
  List.replicate (stop - column % stop) ' '

/-- Widens the tabs of a line that begins at a column. -/
def widenTabs (stop : Nat) : Nat → List Char → List Char
  | _, [] => []
  | column, c :: rest =>
    if c = '\t' then
      let blanks := blanksToStop stop column
      blanks ++ widenTabs stop (column + blanks.length) rest
    else c :: widenTabs stop (column + columnsOf c) rest

/-! ## Cutting a line off -/

/-- Looks for the place to cut a line, between two places. -/
def cutPlace (room : Nat) (line : List Char) : Nat → Nat → Nat → Nat
  | 0, first, _ => first
  | fuel + 1, first, last =>
    let middle := (first + last) / 2
    let size := columns (line.take (middle + 1))
    let isLastWide := (line.drop middle).head?.any fun c => columnsOf c = 2
    if size = room || (size = room + 1 && isLastWide) then middle + 1
    else if room < size then cutPlace room line fuel first middle
    else cutPlace room line fuel middle last

/-- The line without what does not fit into so many columns; half a character leaves a blank. -/
def crop (room : Nat) (line : List Char) : List Char :=
  if columns line ≤ room then line
  else
    let kept := line.take (cutPlace room line line.length 0 line.length)
    if columns kept ≤ room then kept else kept.dropLast ++ [' ']

/-! ## Breaking a line -/

/-- White space. -/
def isSpace (c : Char) : Bool :=
  (CodePoint.ofChar c).isBlank

/-- The words of a line, each with the blanks behind it and the first one also with those in front
of it. The first argument bounds the number of words. -/
def words : Nat → List Char → List (List Char)
  | 0, _ => []
  | fuel + 1, s =>
    let margin := s.takeWhile isSpace
    let behind := s.drop margin.length
    let body := behind.takeWhile (!isSpace ·)
    if body.isEmpty then []
    else
      let rest := behind.drop body.length
      let gap := rest.takeWhile isSpace
      (margin ++ body ++ gap) :: words fuel (rest.drop gap.length)

/-- A text without the blanks at its end. -/
def trimEnd (s : List Char) : List Char :=
  (s.reverse.dropWhile isSpace).reverse

/-- A word in pieces that fit into so many columns; `inHand` holds the piece in hand, the last
character first, and `used` its columns. -/
def chop (room : Nat) : Nat → List Char → List Char → List (List Char)
  | _, inHand, [] => [inHand.reverse]
  | used, inHand, c :: rest =>
    let size := columnsOf c
    if room < used + size then inHand.reverse :: chop room size [c] rest
    else chop room (used + size) (c :: inHand) rest

/-- The places where pieces begin that follow one another from a place on. -/
def placesOf : Nat → List (List Char) → List Nat
  | _, [] => []
  | start, piece :: rest => start :: placesOf (start + piece.length) rest

/-- The places where a line is broken. `used` columns of the line in hand are taken, and the words
begin at `start`. -/
def breaks (room : Nat) : Nat → Nat → List (List Char) → List Nat
  | _, _, [] => []
  | used, start, word :: rest =>
    let next := start + word.length
    let size := columns (trimEnd word)
    if used + size ≤ room then breaks room (used + columns word) next rest
    else if room < size then
      let pieces := chop room 0 [] word
      (placesOf start pieces).filter (· ≠ 0) ++
        breaks room (columns (pieces.getLast?.getD [])) next rest
    else if used ≠ 0 && start ≠ 0 then start :: breaks room (columns word) next rest
    else breaks room used next rest

/-- A line broken at places, which are counted from the start of the whole line; the rest in hand
begins at `start`. -/
def splitAtPlaces (start : Nat) (line : List Char) : List Nat → List (List Char)
  | [] => [line]
  | place :: rest =>
    line.take (place - start) :: splitAtPlaces place (line.drop (place - start)) rest

/-- A line in pieces that fit into so many columns. -/
def wrap (room : Nat) (line : List Char) : List (List Char) :=
  (splitAtPlaces 0 line (breaks room 0 0 (words line.length line))).map (crop room)

end LanguageHost.Console
