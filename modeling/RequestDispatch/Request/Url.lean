/-! The URL of a request, put together from its scheme, server and URI. The port is
written only where it is not the one that the scheme implies, and not at all for a
scheme that implies none. -/
namespace RequestDispatch

/-- The port a scheme implies. -/
def defaultPort? : String → Option UInt16
  | "http" => some 80
  | "https" => some 443
  | _ => none

/-- The port as it stands in a URL. -/
def portText (scheme : String) : Option UInt16 → String
  | none => ""
  | some port =>
    match defaultPort? scheme with
    | none => ""
    | some implied => if port = 0 ∨ port = implied then "" else ":" ++ toString port.toNat

def requestUrl (scheme host : String) (port : Option UInt16) (uri : String) : String :=
  scheme ++ "://" ++ host ++ portText scheme port ++ uri

end RequestDispatch
