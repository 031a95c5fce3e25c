import RequestDispatch.Decimal.Natural
import RequestDispatch.Text.Cut

/-! Authorities.

The authority of a URI names a server: a host, perhaps a port behind a colon and
perhaps user information before an at sign. -/
namespace RequestDispatch

structure Authority where
  text : List Char
  deriving DecidableEq, Repr

namespace Authority

def isPlain (c : Char) : Bool := c.isAlphanum || "!$&'()*+,-.;=_~".toList.contains c

/-- Whether the rest of an authority is well formed. Read so far are the given number of
colons, an opening and a closing bracket, and a percent sign; what a colon or a percent
sign means is known only once it is clear that no at sign or closing bracket follows. -/
def wellFormedFrom (colons : Nat) (opened closed percent : Bool) : List Char → Bool
  | [] => opened == closed && colons ≤ 1 && !percent
  | c :: rest =>
    if c = ':' then colons < 8 && wellFormedFrom (colons + 1) opened closed percent rest
    else if c = '[' then !percent && !opened && wellFormedFrom colons true closed percent rest
    else if c = ']' then opened && !closed && wellFormedFrom 0 opened true false rest
    else if c = '@' then !rest.isEmpty && wellFormedFrom 0 opened closed false rest
    else if c = '%' then wellFormedFrom colons opened closed true rest
    else isPlain c && wellFormedFrom colons opened closed percent rest

def wellFormed (s : List Char) : Bool := wellFormedFrom 0 false false false s

/-- The authority a text is, as a whole. -/
def ofText? (s : List Char) : Option Authority :=
  if !s.isEmpty && wellFormed s then some ⟨s⟩ else none

/-- The host, in its brackets if it has some. -/
def host (a : Authority) : String :=
  let hostPort := Text.behindLast '@' a.text
  if hostPort.head? = some '[' then String.ofList (hostPort.takeWhile (· ≠ ']') ++ [']'])
  else String.ofList (hostPort.takeWhile (· ≠ ':'))

/-- A number below 2 to the 16th. -/
def portNumber? (s : List Char) : Option UInt16 :=
  match Decimal.natural? s with
  | some n => if n < 65536 then some n.toUInt16 else none
  | none => none

/-- The port behind the last colon, if it is a number. -/
def port? (a : Authority) : Option UInt16 :=
  if a.text.contains ':' then portNumber? (Text.behindLast ':' a.text) else none

end Authority
end RequestDispatch
