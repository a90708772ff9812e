import ResidencePortal.Text.Chars
import ResidencePortal.Url.Encoding

/-!
# Paths of addresses

A path is a list of segments. A segment of one dot is dropped and one of two dots takes the segment
before it away; dots may be written as `%2e`. A segment of a letter and a colon or bar names a drive:
two dots leave it in place, and in the path of a file it is written with a colon.
-/

namespace ResidencePortal.Url

open Text

namespace Path

/-- The segment with coded dots read. -/
def withDots : List Char → List Char
  | '%' :: '2' :: 'e' :: rest => '.' :: withDots rest
  | '%' :: '2' :: 'E' :: rest => '.' :: withDots rest
  | c :: rest => c :: withDots rest
  | [] => []

/-- The segment stands for the one itself. -/
def isDot (segment : List Char) : Bool := withDots segment == ['.']

/-- The segment stands for the one before. -/
def isDotDot (segment : List Char) : Bool := withDots segment == ['.', '.']

/-- The segment names a drive. -/
def isDrive : List Char → Bool
  | [letter, mark] => letter.isAlpha && (mark == ':' || mark == '|')
  | _ => false

/-- The segments without the last, which stays if it names a drive. Segments are given last first. -/
def shorten : List (List Char) → List (List Char)
  | [] => []
  | last :: rest => if isDrive last then last :: rest else rest

/-- The segments with one more, which is not the last if a slash follows it. -/
def add (file : Bool) (done : List (List Char)) (segment : List Char) (slash : Bool) : List (List Char) :=
  if isDotDot segment then (if slash then shorten done else [] :: shorten done)
  else if isDot segment then (if slash then done else [] :: done)
  else if file && isDrive segment then (segment.take 1 ++ [':']) :: done
  else segment :: done

/-- The segments of the pieces between slashes, last first. -/
def addAll (file : Bool) : (done pieces : List (List Char)) → List (List Char)
  | done, [] => done
  | done, [last] => add file done last false
  | done, segment :: rest => addAll file (add file done segment true) rest

/-- The pieces of a path between slashes; in addresses of the web a backslash is a slash. -/
def pieces (web : Bool) (cs : List Char) : List (List Char) :=
  splitOn '/' (if web then cs.map fun c => if c = '\\' then '/' else c else cs)

/-- The segments of the text of a path behind its first slash. -/
def segments (web file : Bool) (cs : List Char) : List (List Char) :=
  (addAll file [] ((pieces web cs).map CodedSet.path.encode)).reverse

/-- The path of segments. -/
def ofSegments (segments : List (List Char)) : List Char := '/' :: List.intercalate ['/'] segments

end Path

end ResidencePortal.Url
