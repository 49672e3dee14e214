import GatherBoard.Text.Basic

/-!
# Printed lines

Lines that are printed lose the control sequences that would steer a
terminal.
-/

namespace GatherBoard.Command

/-- Is the code of a character between two bounds? -/
def codeBetween (low high : Nat) (c : Char) : Bool := low ≤ c.toNat && c.toNat ≤ high

/-- Characters that may follow the bracket: digits and `:;<=>?`. -/
def isParameter (c : Char) : Bool := codeBetween 0x30 0x3F c

/-- Characters that may follow the parameters: the space and the marks from
the exclamation mark to the slash. -/
def isIntermediate (c : Char) : Bool := codeBetween 0x20 0x2F c

/-- Characters that end an escape sequence: those from the at sign to the
tilde. -/
def isFinal (c : Char) : Bool := codeBetween 0x40 0x7E c

/-- Length of the control sequence that follows an escape character: a
bracket, parameters, intermediate characters and a final one. -/
def escapeLength? (t : Text) : Option Nat :=
  match t with
  | '[' :: rest =>
    let parameters := rest.takeWhile isParameter
    let middle := (rest.dropWhile isParameter).takeWhile isIntermediate
    match (rest.dropWhile isParameter).dropWhile isIntermediate with
    | c :: _ => if isFinal c then some (parameters.length + middle.length + 2) else none
    | [] => none
  | _ => none

/-- A text without escape sequences, of which the first `skip` characters
belong to a sequence already found. -/
def plainFrom : Nat → Text → Text
  | _, [] => []
  | skip + 1, _ :: rest => plainFrom skip rest
  | 0, c :: rest =>
    match if c = '\x1b' then escapeLength? rest else none with
    | some length => plainFrom length rest
    | none => c :: plainFrom 0 rest

/-- A text without escape sequences. -/
def plain (t : Text) : Text := plainFrom 0 t

/-- One printed line. -/
def printed (t : Text) : Text := plain t ++ ['\n']

end GatherBoard.Command
