namespace PointSelect.Regex

/-- Why a text is no regular expression. -/
inductive Fault where
  | groupUnclosed
  | groupUnopened
  | groupNameEmpty
  | groupNameInvalid
  | groupNameUnexpectedEnd
  | groupNameDuplicate (name : String)
  | lookAround
  | flagUnrecognized (c : Char)
  | flagDuplicate
  | flagRepeatedNegation
  | flagDanglingNegation
  | flagUnexpectedEnd
  | repetitionMissing
  | repetitionUnclosed
  | repetitionOutOfOrder
  | countEmpty
  | countTooLarge
  | escapeUnexpectedEnd
  | escapeUnrecognized (c : Char)
  | backreference
  | hexEmpty
  | hexInvalidDigit (c : Char)
  | hexInvalid
  | boundaryUnclosed
  | boundaryUnrecognized (name : String)
  | classUnclosed
  | classEscapeInvalid
  | classRangeInvalid
  | classRangeNotLiteral
  | propertyNotFound (name : String)
  | propertyNeedsUnicode
  | notAsciiInClass
  | matchesInvalidText
  | nestedTooDeep
  | tooLarge
  deriving DecidableEq

end PointSelect.Regex
