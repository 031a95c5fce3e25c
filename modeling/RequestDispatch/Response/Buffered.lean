import RequestDispatch.Request.Token
import RequestDispatch.Text.Utf8

/-! Buffered responses.

A response collects what is written to it and sends it off when it is flushed or when
more is unsent than its buffer holds. From then on it is committed: its status and
headers stand, and what was sent cannot be taken back. What is unsent can be dropped. -/
namespace RequestDispatch

structure Response where
  status : Nat
  headers : List (String × String)
  unsent : List UInt8
  sent : List UInt8
  capacity : Nat
  committed : Bool
  deriving DecidableEq, Repr, Inhabited

namespace Response

/-- How many bytes a response holds back unless told otherwise. -/
def defaultCapacity : Nat := 8192

def fresh (capacity : Nat) : Response := ⟨200, [], [], [], capacity, false⟩

/-- All that was written, sent or not. -/
def body (r : Response) : List UInt8 := r.sent ++ r.unsent

/-- The body as text. Broken characters are replaced. -/
def bodyText (r : Response) : String := String.ofList (Text.Utf8.decodeLenient r.body)

/-- Sends off what is unsent. -/
def flush (r : Response) : Response :=
  { r with committed := true, sent := r.sent ++ r.unsent, unsent := [] }

/-- Adds to the body. -/
def write (r : Response) (data : List UInt8) : Response :=
  let filled := { r with unsent := r.unsent ++ data }
  if filled.capacity < filled.unsent.length then filled.flush else filled

/-- Drops what is unsent. -/
def reset (r : Response) : Response := { r with unsent := [] }

/-- Sets the status of a response that is not committed. -/
def setStatus (r : Response) (status : Nat) : Response :=
  if r.committed then r else { r with status }

/-- Whether two header names are the same. -/
def sameName (a b : String) : Bool := Http.lower a == Http.lower b

/-- Sets a header of a response that is not committed, in place of an earlier one of the
same name. -/
def setHeader (r : Response) (name value : String) : Response :=
  if r.committed then r
  else { r with headers := r.headers.filter (!sameName ·.1 name) ++ [(name, value)] }

def header? (r : Response) (name : String) : Option String :=
  (r.headers.find? (sameName ·.1 name)).map (·.2)

/-! ### Finished responses -/

/-- A response as an HTTP message. Header names are written in small letters. -/
structure Finished where
  status : Nat
  headers : List (String × String)
  body : List UInt8
  deriving DecidableEq, Repr

/-- The message of a response, if its status and headers can be written in one. -/
def finish? (r : Response) : Option Finished :=
  if 100 ≤ r.status ∧ r.status ≤ 999 ∧
      r.headers.all fun h => Http.isToken h.1 && Http.isHeaderValue h.2 then
    some ⟨r.status, r.headers.map fun h => (Http.lower h.1, h.2), r.flush.sent⟩
  else none

end Response
end RequestDispatch
