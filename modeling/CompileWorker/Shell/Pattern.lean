import CompileWorker.Shell.CharSet

namespace CompileWorker.Shell

inductive Glyph
  | exactly (c : Char)
  | one
  | many
  | among (characters : CharSet)
  deriving DecidableEq, Repr

abbrev Pattern := List Glyph

namespace Pattern

def read : Nat → List CharSet.Mark → Pattern
  | 0, _ => []
  | fuel + 1, text =>
    match text with
    | [] => []
    | (c, true) :: rest => .exactly c :: read fuel rest
    | ('*', false) :: rest => .many :: read fuel rest
    | ('?', false) :: rest => .one :: read fuel rest
    | ('\\', false) :: (c, _) :: rest => .exactly c :: read fuel rest
    | ('[', false) :: rest =>
      match CharSet.read '!' rest with
      | some (characters, rest) => .among characters :: read fuel rest
      | none => .exactly '[' :: read fuel rest
    | (c, false) :: rest => .exactly c :: read fuel rest

def ofMarks (text : List CharSet.Mark) : Pattern := read (text.length + 1) text

def means (g : Glyph) (c : Char) : Bool :=
  match g with
  | .exactly c' => c = c'
  | .one => true
  | .many => false
  | .among characters => characters.contains c

def fits : Pattern → Chars → Bool
  | [], text => text.isEmpty
  | [.many], _ => true
  | .many :: glyphs, [] => fits glyphs []
  | .many :: glyphs, c :: text => fits glyphs (c :: text) || fits (.many :: glyphs) text
  | g :: glyphs, c :: text => means g c && fits glyphs text
  | _ :: _, [] => false
termination_by glyphs text => glyphs.length + text.length

/-- Takes the shortest or the longest beginning of a text that fits a pattern; what is left. -/
def after? (isLongest : Bool) : Pattern → Chars → Option Chars
  | [], text => some text
  | .many :: glyphs, [] => after? isLongest glyphs []
  | .many :: glyphs, c :: text =>
    if isLongest then after? isLongest (.many :: glyphs) text <|>
      after? isLongest glyphs (c :: text)
    else after? isLongest glyphs (c :: text) <|> after? isLongest (.many :: glyphs) text
  | g :: glyphs, c :: text => if means g c then after? isLongest glyphs text else none
  | _ :: _, [] => none
termination_by glyphs text => glyphs.length + text.length

def trim (atEnd isLongest : Bool) (p : Pattern) (text : Chars) : Chars :=
  if atEnd then ((after? isLongest p.reverse text.reverse).map List.reverse).getD text
  else (after? isLongest p text).getD text

end Pattern

end CompileWorker.Shell
