/-! Attribute values.

A request carries values under names. A value is nothing (`null`), a truth value, a
whole number, a text, a list or an object; the fields of an object stand in ascending
order of their names, each name once, so equal values are the same value
(`Value.ofFields`). Numbers with a fraction are left out: no number is ever looked into,
values that are no texts are only compared and asked whether they are `null`. -/
namespace RequestDispatch

/-- What an attribute holds, as far as its numbers are whole. -/
inductive Value where
  | null
  | bool (b : Bool)
  /-- Whole numbers only. -/
  | number (n : Int)
  | text (s : String)
  | list (items : List Value)
  | object (fields : List (String × Value))
  deriving Inhabited

namespace Value

mutual

def decEq : (a b : Value) → Decidable (a = b)
  | null, b => match b with
    | null => isTrue rfl
    | bool _ | number _ | text _ | list _ | object _ => isFalse nofun
  | bool x, b => match b with
    | bool y => if h : x = y then isTrue (h ▸ rfl) else isFalse fun e => h (bool.inj e)
    | null | number _ | text _ | list _ | object _ => isFalse nofun
  | number x, b => match b with
    | number y => if h : x = y then isTrue (h ▸ rfl) else isFalse fun e => h (number.inj e)
    | null | bool _ | text _ | list _ | object _ => isFalse nofun
  | text x, b => match b with
    | text y => if h : x = y then isTrue (h ▸ rfl) else isFalse fun e => h (text.inj e)
    | null | bool _ | number _ | list _ | object _ => isFalse nofun
  | list x, b => match b with
    | list y => match decEqItems x y with
      | isTrue h => isTrue (h ▸ rfl)
      | isFalse h => isFalse fun e => h (list.inj e)
    | null | bool _ | number _ | text _ | object _ => isFalse nofun
  | object x, b => match b with
    | object y => match decEqFields x y with
      | isTrue h => isTrue (h ▸ rfl)
      | isFalse h => isFalse fun e => h (object.inj e)
    | null | bool _ | number _ | text _ | list _ => isFalse nofun

def decEqItems : (a b : List Value) → Decidable (a = b)
  | [], [] => isTrue rfl
  | [], _ :: _ | _ :: _, [] => isFalse nofun
  | x :: xs, y :: ys => match decEq x y, decEqItems xs ys with
    | isTrue h, isTrue hs => isTrue (h ▸ hs ▸ rfl)
    | isFalse h, _ => isFalse fun e => h (List.cons.inj e).1
    | _, isFalse hs => isFalse fun e => hs (List.cons.inj e).2

def decEqFields : (a b : List (String × Value)) → Decidable (a = b)
  | [], [] => isTrue rfl
  | [], _ :: _ | _ :: _, [] => isFalse nofun
  | (k, x) :: xs, (l, y) :: ys =>
    if hk : k = l then
      match decEq x y, decEqFields xs ys with
      | isTrue h, isTrue hs => isTrue (hk ▸ h ▸ hs ▸ rfl)
      | isFalse h, _ => isFalse fun e => h (Prod.mk.inj (List.cons.inj e).1).2
      | _, isFalse hs => isFalse fun e => hs (List.cons.inj e).2
    else isFalse fun e => hk (Prod.mk.inj (List.cons.inj e).1).1

end

instance : DecidableEq Value := decEq

/-- A field put in its place; an older one of its name is replaced. -/
def insertField (name : String) (value : Value) : List (String × Value) → List (String × Value)
  | [] => [(name, value)]
  | f :: rest =>
    if name < f.1 then (name, value) :: f :: rest
    else if name = f.1 then (name, value) :: rest
    else f :: insertField name value rest

/-- The object with the given fields, whatever their order. -/
def ofFields (fields : List (String × Value)) : Value :=
  object (fields.foldl (fun fs f => insertField f.1 f.2 fs) [])

/-- A text that may be missing, as a value. -/
def ofText? : Option String → Value
  | some s => text s
  | none => null

/-- The text of a value that is one. -/
def text? : Value → Option String
  | text s => some s
  | _ => none

end Value
end RequestDispatch
