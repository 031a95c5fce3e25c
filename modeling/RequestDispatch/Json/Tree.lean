/-! JSON texts as trees.

The fields of an object stand as they were written, repetitions included. A string may be
written with escapes that denote no character; such a string has no text. -/
namespace RequestDispatch

inductive Json where
  | null
  | bool (b : Bool)
  | number
  | string (text : Option String)
  | array (items : List Json)
  | object (fields : List (Option String × Json))
  deriving Inhabited

end RequestDispatch
