import CompileWorker.Json.Basic
import CompileWorker.Numeral.Shortest
import CompileWorker.Text.Quoted

namespace CompileWorker

/-- How the digits of a double are laid out: positionally where the exponent of the first digit lies
in a range, else with an exponent that always shows its sign. -/
structure DoubleLayout where
  least : Int
  greatest : Int

namespace DoubleLayout

def write (layout : DoubleLayout) (d : Decimal) : String :=
  let digits := Nat.repr d.digits
  let first : Int := digits.length - 1 + d.exponent
  if layout.least ≤ first ∧ first ≤ layout.greatest then
    if 0 ≤ d.exponent then digits ++ String.ofList (List.replicate d.exponent.toNat '0') ++ ".0"
    else if 0 ≤ first then
      String.ofList (digits.toList.take (first.toNat + 1)) ++ "." ++
        String.ofList (digits.toList.drop (first.toNat + 1))
    else "0." ++ String.ofList (List.replicate (-first - 1).toNat '0') ++ digits
  else
    let fraction := digits.toList.drop 1
    String.ofList (digits.toList.take 1) ++
      (if fraction.isEmpty then "" else "." ++ String.ofList fraction) ++
      "e" ++ (if first < 0 then "-" else "+") ++ toString first.natAbs

end DoubleLayout

def Json.doubleLayout : DoubleLayout := ⟨-5, 15⟩

def Number.text : Number → String
  | .integer n => toString n
  | .double x => (if x.isNegative then "-" else "") ++ Json.doubleLayout.write x.shortest

namespace Json

def escape (c : Char) : String :=
  if c = '"' then "\\\""
  else if c = '\\' then "\\\\"
  else if c = '\x08' then "\\b"
  else if c = '\x0c' then "\\f"
  else if c = '\n' then "\\n"
  else if c = '\r' then "\\r"
  else if c = '\t' then "\\t"
  else if c.toNat < 0x20 then "\\u00" ++ (if c.toNat < 0x10 then "0" else "") ++ Text.hex c.toNat
  else String.singleton c

def stringText (s : String) : String := "\"" ++ String.join (s.toList.map escape) ++ "\""

mutual

def text : Json → String
  | .null => "null"
  | .bool b => if b then "true" else "false"
  | .number n => n.text
  | .string s => stringText s
  | .array items => "[" ++ ",".intercalate (itemTexts items) ++ "]"
  | .object members => "\x7b" ++ ",".intercalate (memberTexts members) ++ "\x7d"

def itemTexts : List Json → List String
  | [] => []
  | j :: items => j.text :: itemTexts items

def memberTexts : List (String × Json) → List String
  | [] => []
  | (name, j) :: members => (stringText name ++ ":" ++ j.text) :: memberTexts members

end

private def indent (depth : Nat) : String := "\n" ++ String.ofList (List.replicate (2 * depth) ' ')

private def block (opening closing : String) (depth : Nat) (parts : List String) : String :=
  if parts.isEmpty then opening ++ closing
  else opening ++ indent (depth + 1) ++ ("," ++ indent (depth + 1)).intercalate parts ++
    indent depth ++ closing

mutual

/-- The laid-out form, indented by two spaces for each level from `depth` on. -/
def layout (depth : Nat) : Json → String
  | .null => "null"
  | .bool b => if b then "true" else "false"
  | .number n => n.text
  | .string s => stringText s
  | .array items => block "[" "]" depth (itemLayouts (depth + 1) items)
  | .object members => block "\x7b" "\x7d" depth (memberLayouts (depth + 1) members)

def itemLayouts (depth : Nat) : List Json → List String
  | [] => []
  | j :: items => j.layout depth :: itemLayouts depth items

def memberLayouts (depth : Nat) : List (String × Json) → List String
  | [] => []
  | (name, j) :: members =>
    (stringText name ++ ": " ++ j.layout depth) :: memberLayouts depth members

end

end Json

end CompileWorker
