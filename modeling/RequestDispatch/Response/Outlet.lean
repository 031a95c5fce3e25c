import RequestDispatch.Response.Buffered

/-! Outlets.

Handlers write to a response through an outlet, whose line to the client may break: an
outlet can be limited to a number of writes, after which each write fails and leaves
the response as it is. -/
namespace RequestDispatch

inductive WriteError where
  | lineBroken
  deriving DecidableEq, Repr

def WriteError.message : WriteError → String
  | lineBroken => "write failed"

structure Outlet where
  response : Response
  /-- How many writes the line still carries, if it is limited. -/
  writesLeft : Option Nat
  deriving DecidableEq, Repr, Inhabited

namespace Outlet

def fresh (capacity : Nat) (writes : Option Nat) : Outlet := ⟨.fresh capacity, writes⟩

def write (o : Outlet) (data : List UInt8) : Except WriteError Outlet :=
  match o.writesLeft with
  | some 0 => .error .lineBroken
  | some (n + 1) => .ok ⟨o.response.write data, some n⟩
  | none => .ok ⟨o.response.write data, none⟩

/-- Changes the response by anything but a write. -/
def change (o : Outlet) (f : Response → Response) : Outlet := { o with response := f o.response }

end Outlet
end RequestDispatch
