import RequestDispatch.Unicode.Table
import RequestDispatch.Unicode.CaseRing

/-! Sets closed under letter case. -/
namespace RequestDispatch.Unicode

/-- The rings of characters that differ in case only. -/
def rings : List (List Nat) := Table.readRings 0 (Table.words [] caseRings.toList)

/-- The set with every character that differs from a member in case only. -/
def CharSet.foldCase (s : CharSet) : CharSet :=
  let added := (rings.filter fun ring => ring.any s.hasCode).flatten
  s.union (CharSet.ofAscending (added.mergeSort (· ≤ ·)))

/-- The set with both cases of each ASCII letter in it. -/
def CharSet.foldAscii (s : CharSet) : CharSet :=
  let letters := (List.range 26).map (65 + ·)
  let added := letters.filter fun n => s.hasCode n || s.hasCode (n + 32)
  s.union (CharSet.ofAscending (added ++ added.map (· + 32)))

end RequestDispatch.Unicode
