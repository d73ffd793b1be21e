/-
  Fleet/Url/Path.lean
  ===================
  **Paths of web URLs.**

  A path is cut into segments at slashes and backslashes.  A segment of one dot is dropped and
  one of two dots takes the segment before it away, also when the dots are percent-encoded.
  At the end of the path such a segment leaves an empty one.  A segment that looks like the
  letter of a drive is not taken away.
-/
import Fleet.Url.Percent

namespace Fleet.Url.Path

def isSlash (c : Char) : Bool := c == '/' || c == '\\'

/-- The segment with its encoded dots decoded. -/
def plainDots : List Char → List Char
  | '%' :: '2' :: 'e' :: r | '%' :: '2' :: 'E' :: r => '.' :: plainDots r
  | c :: r => c :: plainDots r
  | [] => []

def isSingleDot (s : List Char) : Bool := plainDots s == ['.']
def isDoubleDot (s : List Char) : Bool := plainDots s == ['.', '.']

/-- A letter followed by a colon or a bar. -/
def isDrive : List Char → Bool
  | [a, b] => a.isAlpha && (b == ':' || b == '|')
  | _ => false

/-- Takes the last segment away (the segments are in reverse). -/
def climb : List (List Char) → List (List Char)
  | [] => []
  | s :: r => if isDrive s then s :: r else r

/-- The segments in front of the last one, in reverse, and the last one. -/
def walk (done : List (List Char)) : List (List Char) → List (List Char) × List Char
  | [] => (done, [])
  | [s] =>
    if isDoubleDot s then (climb done, [])
    else if isSingleDot s then (done, [])
    else (done, s)
  | s :: r =>
    if isDoubleDot s then walk (climb done) r
    else if isSingleDot s then walk done r
    else walk (s :: done) r

def ofSegments (segments : List (List Char)) : List Char :=
  let (done, last) := walk [] segments
  '/' :: (done.reverse.flatMap (· ++ ['/']) ++ last)

def parse (cs : List Char) : List Char :=
  let body := match cs with
    | c :: r => if isSlash c then r else c :: r
    | [] => []
  ofSegments ((body.splitOnP isSlash).map (Percent.encode Percent.inPath))

end Fleet.Url.Path
