/-! Cutting text.

A text is cut at the first character of a kind (`upTo`), behind a leading text
(`after?`) or before a trailing one (`before?`). A cut that succeeds loses nothing:
what was cut off, put back, gives the whole text (`after?_eq_some_iff`,
`before?_eq_some_iff`), and `upTo` is the longest leading part free of the kind. -/
namespace RequestDispatch.Text

/-- What follows `lead` in a list of characters that begins with it. -/
def dropLead? : List Char → List Char → Option (List Char)
  | [], s => some s
  | _ :: _, [] => none
  | c :: lead, d :: s => if c = d then dropLead? lead s else none

theorem dropLead?_append (lead s : List Char) : dropLead? lead (lead ++ s) = some s := by
  induction lead with
  | nil => rfl
  | cons c lead ih => simp [dropLead?, ih]

theorem dropLead?_eq_some_iff {lead s r : List Char} :
    dropLead? lead s = some r ↔ s = lead ++ r := by
  constructor
  · induction lead generalizing s with
    | nil => intro h; simpa [dropLead?] using h
    | cons c lead ih =>
      cases s with
      | nil => simp [dropLead?]
      | cons d s =>
        by_cases h : c = d
        · subst h
          simpa [dropLead?] using ih
        · simp [dropLead?, h]
  · rintro rfl
    exact dropLead?_append lead r

/-- What follows `lead` in `s`, if `s` begins with it. -/
def after? (lead s : String) : Option String :=
  (dropLead? lead.toList s.toList).map String.ofList

theorem after?_eq_some_iff {lead s r : String} : after? lead s = some r ↔ s = lead ++ r := by
  constructor
  · intro h
    obtain ⟨t, ht, rfl⟩ := Option.map_eq_some_iff.1 h
    apply String.ext
    rw [String.toList_append, String.toList_ofList]
    exact dropLead?_eq_some_iff.1 ht
  · rintro rfl
    simp [after?, dropLead?_append]

/-- What precedes `tail` in `s`, if `s` ends with it. -/
def before? (tail s : String) : Option String :=
  (dropLead? tail.toList.reverse s.toList.reverse).map fun r => String.ofList r.reverse

theorem before?_eq_some_iff {tail s r : String} : before? tail s = some r ↔ s = r ++ tail := by
  constructor
  · intro h
    obtain ⟨t, ht, rfl⟩ := Option.map_eq_some_iff.1 h
    apply String.ext
    rw [String.toList_append, String.toList_ofList]
    have := congrArg List.reverse (dropLead?_eq_some_iff.1 ht)
    simpa using this
  · rintro rfl
    simp [before?, dropLead?_append]

/-- The part of `s` before the first character of the kind. -/
def upTo (kind : Char → Bool) (s : String) : String :=
  String.ofList (s.toList.takeWhile fun c => !kind c)

@[simp] theorem toList_upTo (kind : Char → Bool) (s : String) :
    (upTo kind s).toList = s.toList.takeWhile fun c => !kind c := String.toList_ofList

/-- The parts of `s` before and behind the first occurrence of `mark`. -/
def splitAt? (mark : Char) (s : String) : Option (String × String) :=
  match s.toList.dropWhile (· ≠ mark) with
  | [] => none
  | _ :: r => some (String.ofList (s.toList.takeWhile (· ≠ mark)), String.ofList r)

/-- The text behind the last occurrence of `mark`, or all of it. -/
def behindLast (mark : Char) (s : List Char) : List Char :=
  (s.reverse.takeWhile (· ≠ mark)).reverse

def beginsWith (c : Char) (s : String) : Bool := s.toList.head? == some c

theorem beginsWith_iff_toList {c : Char} {s : String} : beginsWith c s ↔ ∃ rest, s.toList = c :: rest := by
  rw [beginsWith, beq_iff_eq, List.head?_eq_some_iff]

def contains (c : Char) (s : String) : Bool := s.toList.contains c

/-- Whether `s` ends with `tail`. -/
def endsIn (tail s : String) : Bool := (before? tail s).isSome

end RequestDispatch.Text
