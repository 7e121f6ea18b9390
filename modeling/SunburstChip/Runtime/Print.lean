import SunburstChip.Base.Status

namespace SunburstChip
namespace Print

/-!
# Printing digits and statuses

The parts of `print.c` that write a number in some base and a `status_t`.  What
is given is the text handed to the sink, or nothing where a local buffer would
be too small.
-/

/-- `kDigitsLow` -/
def kDigitsLow : List (BitVec 8) := ascii "0123456789abcdef"

/-- The loop of `write_digits` that writes digits in front of `text` while
there is room. -/
def digitsLoop (base : BitVec 32) (glyphs : List (BitVec 8)) :
    Nat -> BitVec 32 -> List (BitVec 8) -> Option (List (BitVec 8))
  | 0, value, text => if value = 0 then some text else none
  | room + 1, value, text =>
      if value = 0 then some text
      else digitsLoop base glyphs room (value / base) (glyphs.getD (value % base).toNat 0 :: text)

/-- `write_digits` -/
def writeDigits (value : BitVec 32) (width : Nat) (padding : BitVec 8) (base : BitVec 32)
    (glyphs : List (BitVec 8)) : Option (List (BitVec 8)) :=
  (if value = 0 then some [glyphs.getD 0 0] else digitsLoop base glyphs 32 value []).map
    (fun text =>
      List.replicate (min (if width = 0 then 1 else width) 32 - text.length) padding ++ text)

/-- `write_status`: the pieces of text handed to the sink. -/
def writeStatus (value : Status) (asJson : Bool) : Option (List (List (BitVec 8))) :=
  let extracted := statusExtract value
  (writeDigits extracted.arg 0 0 10 kDigitsLow).map (fun arg =>
    [ascii (if asJson then "\x7b\"" else ""), extracted.code,
      ascii (if asJson then "\"" else ""), ascii ":"] ++
    (match extracted.modId with
      | some mod => [ascii "[", ascii "\"" ++ mod ++ ascii "\",", arg, ascii "]"]
      | none => [arg]) ++
    [ascii (if asJson then "\x7d" else "")])

end Print
end SunburstChip
