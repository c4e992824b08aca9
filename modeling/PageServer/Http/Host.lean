import PageServer.Text.Blank
import PageServer.Text.Hex
/-! Hosts as URLs name them: a name or an address in brackets, with or without a port. The address
in brackets has eight groups of hexadecimal digits, of which one run may be left out between two
colons; the last two groups may be written as four decimal numbers. -/
namespace PageServer.Http

open Text

def isHostChar (c : Char) : Bool :=
  c.isAlphanum || "-._~!$&'()*+,;=%".toList.contains c

/-- Whether a text is a decimal number of one byte without zeros in front. -/
def isByte (s : List Char) : Bool :=
  !s.isEmpty && s.length ≤ 3 && s.all Char.isDigit && (s.length = 1 || s.head? != some '0') &&
    s.foldl (fun n c => 10 * n + (c.toNat - '0'.toNat)) 0 ≤ 255

def isShortAddress (s : List Char) : Bool :=
  let parts := splitAt '.' s
  parts.length = 4 && parts.all isByte

def isGroup (s : List Char) : Bool :=
  !s.isEmpty && s.length ≤ 4 && s.all fun c => (hexValue? c).isSome

/-- How many groups a list of them counts as, if each of them is sound. Only the last group of an
address may be four numbers, and counts twice. -/
def groupCount? (last : Bool) : List (List Char) → Option Nat
  | [] => some 0
  | [s] => if isGroup s then some 1 else if last && isShortAddress s then some 2 else none
  | s :: rest => if isGroup s then (groupCount? last rest).map (· + 1) else none

/-- The texts before and after the first pair of colons. -/
def splitPair : List Char → Option (List Char × List Char)
  | ':' :: ':' :: rest => some ([], rest)
  | c :: rest => (splitPair rest).map fun (before, after) => (c :: before, after)
  | [] => none

def groupsOf (s : List Char) : List (List Char) :=
  if s.isEmpty then [] else splitAt ':' s

def isLongAddress (s : List Char) : Bool :=
  match splitPair s with
  | none => groupCount? true (groupsOf s) == some 8
  | some (before, after) =>
      match groupCount? false (groupsOf before), groupCount? true (groupsOf after) with
      | some m, some n => m + n ≤ 7
      | _, _ => false

def isBracketed (s : List Char) : Bool :=
  match s with
  | '[' :: rest => rest.getLast? == some ']' && isLongAddress rest.dropLast
  | _ => false

def isPort (s : List Char) : Bool :=
  match s with
  | ':' :: ds =>
      !ds.isEmpty && ds.all Char.isDigit &&
        ds.foldl (fun n c => if 65535 < n then n else 10 * n + (c.toNat - '0'.toNat)) 0 ≤ 65535
  | _ => false

def isSoundHost (s : List Char) : Bool :=
  let (host, rest) :=
    if s.head? == some '[' then
      let length := (s.takeWhile (· != ']')).length + 1
      (s.take length, s.drop length)
    else (s.takeWhile (· != ':'), s.dropWhile (· != ':'))
  (isBracketed host || (!host.isEmpty && host.all isHostChar)) && (rest.isEmpty || isPort rest)

example : isLongAddress "1::8".toList = true ∧ isLongAddress "::1::2".toList = false ∧
    isLongAddress "1:2:3:4:5:6:1.2.3.4".toList = true ∧
    isLongAddress "::256.1.1.1".toList = false := by decide +kernel

end PageServer.Http
