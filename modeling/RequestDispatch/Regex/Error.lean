import RequestDispatch.Unicode.Property

/-! Why a text is no regular expression, or one that is refused. -/
namespace RequestDispatch.Regex

inductive Error where
  | groupUnopened
  | groupUnclosed
  | groupNameInvalid
  | groupNameMissing
  | groupNameRepeated (name : String)
  | lookAround
  | flagUnknown (c : Char)
  | flagRepeated
  | flagsUnclosed
  | negationDangling
  | repetitionMissing
  | countUnclosed
  | countMissing
  | countTooLarge
  | countDescending (low high : Nat)
  | classUnclosed
  | classRangeInvalid
  | classEscapeInvalid
  | escapeUnclosed
  | escapeUnknown (c : Char)
  | backreference
  | hexDigitInvalid (c : Char)
  | hexEmpty
  | hexInvalid
  | wordEdgeUnknown
  | propertyInvalid (cause : Unicode.QueryError)
  | propertyNotAllowed
  | notUtf8
  | notAllowedInBytes (c : Char)
  | nestedTooDeep
  | tooLarge
  deriving DecidableEq, Repr

end RequestDispatch.Regex
