import PageServer.Text.Hex
/-! Halves of surrogate pairs. A text consists of whole characters; a half that stands alone is kept
as a private character of the last plane, its stand-in. A text with stand-ins can be shown in
quotes, but it has no bytes. So the 2048 private characters from U+10D800 to U+10DFFF cannot be told
from halves, and texts are taken not to hold them on their own account. -/
namespace PageServer.Text

/-- Whether a code is one half of a pair, and so no character. -/
def isHalf (code : Nat) : Bool :=
  0xD800 ≤ code && code ≤ 0xDFFF

/-- How far stand-ins lie above the halves that they stand for. -/
def standInOffset : Nat := 0x100000

/-- The character of a code, or the stand-in of a half. -/
def charOfCode (code : Nat) : Char :=
  if isHalf code then Char.ofNat (standInOffset + code) else Char.ofNat code

/-- The half that a character stands in for. -/
def half? (c : Char) : Option Nat :=
  if standInOffset ≤ c.toNat && isHalf (c.toNat - standInOffset) then some (c.toNat - standInOffset)
  else none

def halfText (code : Nat) : List Char :=
  ['\\', 'u'] ++ hexFixed 4 code

/-- The first run of halves in a text: where it starts, and the halves. -/
def firstHalves? (s : List Char) : Option (Nat × List Nat) :=
  let plain := s.takeWhile fun c => (half? c).isNone
  let halves := ((s.drop plain.length).takeWhile fun c => (half? c).isSome).filterMap half?
  if halves.isEmpty then none else some (plain.length, halves)

/-- What keeps a text from having bytes, if there is a half in it. -/
def encodingFault? (s : List Char) : Option String :=
  (firstHalves? s).map fun (position, halves) =>
    "'utf-8' codec can't encode " ++
      (match halves with
        | [half] => "character '" ++ String.ofList (halfText half) ++ "' in position " ++
            toString position
        | _ => "characters in position " ++ toString position ++ "-" ++
            toString (position + halves.length - 1)) ++
      ": surrogates not allowed"

example : half? (charOfCode 0xD83D) = some 0xD83D ∧ half? (charOfCode 0xE000) = none := by
  decide +kernel

end PageServer.Text
