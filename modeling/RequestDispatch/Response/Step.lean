import RequestDispatch.Response.Outlet

/-! Steps on responses: all that can be done to a response, as data. -/
namespace RequestDispatch

inductive Response.Step where
  | write (data : List UInt8)
  | flush
  | reset
  | status (status : Nat)
  | header (name value : String)
  deriving DecidableEq, Repr

def Response.step (r : Response) : Response.Step → Response
  | .write data => r.write data
  | .flush => r.flush
  | .reset => r.reset
  | .status status => r.setStatus status
  | .header name value => r.setHeader name value

/-- The response after a list of steps. -/
def Response.run (r : Response) (steps : List Response.Step) : Response := steps.foldl step r

/-- A step through an outlet. Only a write can fail. -/
def Outlet.step (o : Outlet) : Response.Step → Except WriteError Unit × Outlet
  | .write data =>
    match o.write data with
    | .ok o => (.ok (), o)
    | .error e => (.error e, o)
  | s => (.ok (), o.change (·.step s))

end RequestDispatch
