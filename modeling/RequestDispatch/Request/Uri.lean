import RequestDispatch.Request.Authority
import RequestDispatch.Request.Token
import RequestDispatch.Text.Utf8

/-! URIs of requests.

A request names its target by a path with or without a query, by a full URI, by an
authority alone, or by a star. A fragment is dropped. -/
namespace RequestDispatch

structure Uri where
  scheme : Option String
  authority : Option Authority
  path : String
  query : Option String
  deriving DecidableEq, Repr

namespace Uri

/-- Characters of paths. Those that ought to be escaped but are often sent as they are, and
all beyond ASCII, are let through. -/
def isPathChar (c : Char) : Bool :=
  let n := c.toNat
  n = 0x21 || (0x24 ≤ n && n ≤ 0x3B) || n = 0x3D || (0x40 ≤ n && n ≤ 0x5F) ||
    (0x61 ≤ n && n ≤ 0x7A) || n = 0x7C || 0x7E ≤ n || c = '"' || c = '{' || c = '}'

def isQueryChar (c : Char) : Bool :=
  let n := c.toNat
  n = 0x21 || (0x24 ≤ n && n ≤ 0x3B) || n = 0x3D || 0x3F ≤ n

/-- A path and the query behind its first question mark. -/
def pathAndQuery? (s : List Char) : Option (List Char × Option String) :=
  let path := s.takeWhile fun c => c ≠ '?' && c ≠ '#'
  if !path.all isPathChar then none
  else match s.dropWhile fun c => c ≠ '?' && c ≠ '#' with
    | '?' :: rest =>
      let query := rest.takeWhile (· ≠ '#')
      if query.all isQueryChar then some (path, some (String.ofList query)) else none
    | _ => some (path, none)

def isSchemeChar (c : Char) : Bool := c.isAlphanum || c = '+' || c = '-' || c = '.' || c = '~'

/-- The longest scheme that is accepted. -/
def maxScheme : Nat := 64

/-- The scheme before `://`, and what follows. The two schemes of HTTP are written in small
letters. -/
def scheme? (s : List Char) : Option (List Char × List Char) :=
  let name := s.takeWhile isSchemeChar
  match s.drop name.length with
  | ':' :: '/' :: '/' :: rest =>
    if s.length ≤ 3 then none
    else
      let small := name.map Http.lowerChar
      if small = "http".toList ∨ small = "https".toList then some (small, rest)
      else some (name, rest)
  | _ => none

/-- A full URI, or an authority alone. -/
def full? (s : List Char) : Option Uri :=
  match scheme? s with
  | none => (Authority.ofText? s).map fun a => ⟨none, some a, "", none⟩
  | some (scheme, rest) =>
    if maxScheme < scheme.length then none
    else do
      let ends := fun (c : Char) => c = '/' || c = '?' || c = '#'
      let authority ← Authority.ofText? (rest.takeWhile (!ends ·))
      let (path, query) ← pathAndQuery? (rest.dropWhile (!ends ·))
      let path := if path.isEmpty then "/" else String.ofList path
      some ⟨some (String.ofList scheme), some authority, path, query⟩

/-- The longest URI that is accepted, in bytes. -/
def maxBytes : Nat := 65534

def ofText? (s : String) : Option Uri :=
  let chars := s.toList
  if maxBytes < (Text.Utf8.encode chars).length then none
  else match chars with
    | [] => none
    | ['*'] => some ⟨none, none, "*", none⟩
    | '/' :: _ => (pathAndQuery? chars).map fun (path, query) => ⟨none, none, String.ofList path, query⟩
    | chars => full? chars

def host? (u : Uri) : Option String := u.authority.map (·.host)

def port? (u : Uri) : Option UInt16 := u.authority.bind (·.port?)

end Uri
end RequestDispatch
